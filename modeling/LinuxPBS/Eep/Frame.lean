import Mathlib.Data.Int.Notation
import LinuxPBS.Library.Bytes

/-!
# The frames of the EEP link

`EEPClient::prepareCmd`, `isValidCheckSum` and `parseMessage` of `eep_client.cpp`.
A frame is a header of 16 bytes, the payload and a check code, all words
little-endian.

```text
 0 destination  1 source  2 data type code  3 reserve  4 day  5 month  6 year
 8 reserve  9 second  10 minute  11 hour  12 sequence number  14 data length
16 payload                            16 + data length: check code (4)
```

The check code is the sum of the 32-bit words in front of it, with the bytes that
are left over added one by one.  The data length is written down in `prepareCmd`
separately for every command, away from the `serialize` that appends the payload.
-/

namespace LinuxPBS.Eep

open LinuxPBS.Bytes

/-! ## Codes and command data -/

/-- `EEPClient::MESSAGE_CODE` -/
inductive MessageCode
  | ack
  | nak
  | healthStatusRequest
  | healthStatusResponse
  | watchdogRequest
  | watchdogResponse
  | startRequest
  | startResponse
  | stopRequest
  | stopResponse
  | diStatusNotification
  | diStatusRequest
  | diStatusResponse
  | setDoRequest
  | setDiPortConfiguration
  | getObuInformationRequest
  | obuInformationNotification
  | getObuInformationStop
  | deductRequest
  | transactionData
  | deductStopRequest
  | transactionRequest
  | cpoInformationDisplayRequest
  | cpoInformationDisplayResult
  | carparkProcessCompleteNotification
  | carparkProcessCompleteResult
  | dsrcProcessCompleteNotification
  | stopRequestOfRelatedInformationDistribution
  | dsrcStatusRequest
  | dsrcStatusResponse
  | timeCalibrationRequest
  | timeCalibrationResponse
  | eepRestartInquiry
  | eepRestartInquiryResponse
  | notificationLog
  | setParkingAvailable
  | cdDownloadRequest
  deriving DecidableEq, Repr

/-- `static_cast<uint8_t>(MESSAGE_CODE)` -/
def MessageCode.toUInt8 : MessageCode → UInt8
  | .ack => 0x10
  | .nak => 0x11
  | .healthStatusRequest => 0x72
  | .healthStatusResponse => 0x13
  | .watchdogRequest => 0x73
  | .watchdogResponse => 0x15
  | .startRequest => 0x40
  | .startResponse => 0x41
  | .stopRequest => 0x42
  | .stopResponse => 0x43
  | .diStatusNotification => 0x60
  | .diStatusRequest => 0x61
  | .diStatusResponse => 0x62
  | .setDoRequest => 0x63
  | .setDiPortConfiguration => 0x64
  | .getObuInformationRequest => 0x20
  | .obuInformationNotification => 0x21
  | .getObuInformationStop => 0x22
  | .deductRequest => 0x82
  | .transactionData => 0xF4
  | .deductStopRequest => 0x83
  | .transactionRequest => 0x76
  | .cpoInformationDisplayRequest => 0x30
  | .cpoInformationDisplayResult => 0x31
  | .carparkProcessCompleteNotification => 0x32
  | .carparkProcessCompleteResult => 0x37
  | .dsrcProcessCompleteNotification => 0x33
  | .stopRequestOfRelatedInformationDistribution => 0x34
  | .dsrcStatusRequest => 0x35
  | .dsrcStatusResponse => 0x36
  | .timeCalibrationRequest => 0x50
  | .timeCalibrationResponse => 0x51
  | .eepRestartInquiry => 0x53
  | .eepRestartInquiryResponse => 0x54
  | .notificationLog => 0xF2
  | .setParkingAvailable => 0x55
  | .cdDownloadRequest => 0x93

/-- `EEPClient::CommandType` -/
inductive CommandType
  | unknownReqCmd
  | ack
  | nak
  | healthStatusReqCmd
  | watchdogReqCmd
  | startReqCmd
  | stopReqCmd
  | diReqCmd
  | doReqCmd
  | setDiPortConfigCmd
  | getObuInfoReqCmd
  | getObuInfoStopReqCmd
  | deductReqCmd
  | deductStopReqCmd
  | transactionReqCmd
  | cpoInfoDisplayReqCmd
  | carparkProcessCompleteNotificationReqCmd
  | dsrcProcessCompleteNotificationReqCmd
  | stopReqOfRelatedInfoDistributionCmd
  | dsrcStatusReqCmd
  | timeCalibrationReqCmd
  | setCarparkAvailReqCmd
  | cdDownloadReqCmd
  | eepRestartInquiryReqCmd
  | eepIdle
  deriving DecidableEq, Repr

/-- The structs derived from `CommandDataBase`, with their fields in the order of `serialize`;
the sequence number of an ACK or a NAK is not serialised. -/
inductive CommandData
  | ackData (seqNo : UInt16) (reqDatatypeCode : UInt8) (rsv : Vector UInt8 3)
  | nakData (seqNo : UInt16) (reqDatatypeCode reasonCode : UInt8) (rsv : Vector UInt8 2)
  | setDIPortConfigData (periodDebounceDI1 periodDebounceDI2 periodDebounceDI3 periodDebounceDI4
      periodDebounceDI5 rsv : Vector UInt8 2)
  | setDOPort (do1 do2 do3 do4 do5 do6 : UInt8) (rsv : Vector UInt8 2)
  | deductData (serialNum : Vector UInt8 2) (rsv : Vector UInt8 10) (obuLabel : Vector UInt8 5)
      (rsv1 : Vector UInt8 3) (chargeAmt rsv2 : Vector UInt8 2)
      (parkingStartDay parkingStartMonth : UInt8) (parkingStartYear : Vector UInt8 2)
      (rsv3 parkingStartSecond parkingStartMinute parkingStartHour : UInt8)
      (parkingEndDay parkingEndMonth : UInt8) (parkingEndYear : Vector UInt8 2)
      (rsv4 parkingEndSecond parkingEndMinute parkingEndHour : UInt8)
  | deductStopData (serialNum : Vector UInt8 2) (rsv : Vector UInt8 10) (obuLabel : Vector UInt8 5)
      (rsv1 : Vector UInt8 3)
  | transactionReqData (serialNum : Vector UInt8 2) (rsv : Vector UInt8 10)
      (obuLabel : Vector UInt8 5) (rsv1 : Vector UInt8 3)
  | cpoInfoDisplayData (rsv : Vector UInt8 8) (obuLabel : Vector UInt8 5) (rsv1 : Vector UInt8 3)
      (dataType : UInt8) (rsv2 : Vector UInt8 3) (timeout dataLenOfStoredData : Vector UInt8 4)
      (dataString1 dataString2 dataString3 dataString4 dataString5 : Vector UInt8 21)
      (storedData : List UInt8)
  | carparkProcessCompleteData (rsv : Vector UInt8 8) (obuLabel : Vector UInt8 5)
      (rsv1 : Vector UInt8 3) (processingResult rsv2 : UInt8) (amt : Vector UInt8 2)
  | dsrcProcessCompleteData (rsv : Vector UInt8 8) (obuLabel : Vector UInt8 5)
      (rsv1 : Vector UInt8 3)
  | stopReqOfRelatedInfoData (rsv : Vector UInt8 8) (obuLabel : Vector UInt8 5)
      (rsv1 : Vector UInt8 3)
  | timeCalibrationData (day month : UInt8) (year : Vector UInt8 2) (rsv second minute hour : UInt8)
  | setParkingAvailabilityData (availableLots totalLots : Vector UInt8 2) (rsv : Vector UInt8 12)
  | restartInquiryResponseData (response : UInt8) (rsv : Vector UInt8 3)
  deriving DecidableEq, Repr

/-- `CommandDataBase::serialize` -/
def CommandData.serialize : CommandData → List UInt8
  | .ackData _ reqDatatypeCode rsv => reqDatatypeCode :: rsv.toList
  | .nakData _ reqDatatypeCode reasonCode rsv => reqDatatypeCode :: reasonCode :: rsv.toList
  | .setDIPortConfigData di1 di2 di3 di4 di5 rsv =>
      di1.toList ++ di2.toList ++ di3.toList ++ di4.toList ++ di5.toList ++ rsv.toList
  | .setDOPort do1 do2 do3 do4 do5 do6 rsv => [do1, do2, do3, do4, do5, do6] ++ rsv.toList
  | .deductData serialNum rsv obuLabel rsv1 chargeAmt rsv2 startDay startMonth startYear rsv3
      startSecond startMinute startHour endDay endMonth endYear rsv4 endSecond endMinute endHour =>
      serialNum.toList ++ rsv.toList ++ obuLabel.toList ++ rsv1.toList ++ chargeAmt.toList ++
        rsv2.toList ++ [startDay, startMonth] ++ startYear.toList ++
        [rsv3, startSecond, startMinute, startHour, endDay, endMonth] ++ endYear.toList ++
        [rsv4, endSecond, endMinute, endHour]
  | .deductStopData serialNum rsv obuLabel rsv1 =>
      serialNum.toList ++ rsv.toList ++ obuLabel.toList ++ rsv1.toList
  | .transactionReqData serialNum rsv obuLabel rsv1 =>
      serialNum.toList ++ rsv.toList ++ obuLabel.toList ++ rsv1.toList
  | .cpoInfoDisplayData rsv obuLabel rsv1 dataType rsv2 timeout dataLenOfStoredData dataString1
      dataString2 dataString3 dataString4 dataString5 storedData =>
      rsv.toList ++ obuLabel.toList ++ rsv1.toList ++ [dataType] ++ rsv2.toList ++ timeout.toList ++
        dataLenOfStoredData.toList ++ dataString1.toList ++ dataString2.toList ++
        dataString3.toList ++ dataString4.toList ++ dataString5.toList ++ storedData
  | .carparkProcessCompleteData rsv obuLabel rsv1 processingResult rsv2 amt =>
      rsv.toList ++ obuLabel.toList ++ rsv1.toList ++ [processingResult, rsv2] ++ amt.toList
  | .dsrcProcessCompleteData rsv obuLabel rsv1 => rsv.toList ++ obuLabel.toList ++ rsv1.toList
  | .stopReqOfRelatedInfoData rsv obuLabel rsv1 => rsv.toList ++ obuLabel.toList ++ rsv1.toList
  | .timeCalibrationData day month year rsv second minute hour =>
      [day, month] ++ year.toList ++ [rsv, second, minute, hour]
  | .setParkingAvailabilityData availableLots totalLots rsv =>
      availableLots.toList ++ totalLots.toList ++ rsv.toList
  | .restartInquiryResponseData response rsv => response :: rsv.toList

/-! ## The header and the check code -/

/-- `EEPClient::MessageHeader` -/
structure MessageHeader where
  destinationID : UInt8
  sourceID : UInt8
  dataTypeCode : UInt8
  rsv : UInt8
  day : UInt8
  month : UInt8
  year : UInt16
  rsv1 : UInt8
  second : UInt8
  minute : UInt8
  hour : UInt8
  seqNo : UInt16
  dataLen : UInt16
  deriving DecidableEq, Repr

/-- `MessageHeader::HEADER_SIZE` -/
def headerSize : ℕ := 16

/-- `(data[offset + 1] << 8) | data[offset]` -/
def readUint16 (data : List UInt8) (offset : ℕ) : UInt16 :=
  UInt16.ofNat (ofLeBytes [data.getD offset 0, data.getD (offset + 1) 0])

/-- `MessageHeader::deserialize` -/
def MessageHeader.deserialize (data : List UInt8) : Option MessageHeader :=
  if data.length < headerSize then none
  else some
    { destinationID := data.getD 0 0
      sourceID := data.getD 1 0
      dataTypeCode := data.getD 2 0
      rsv := data.getD 3 0
      day := data.getD 4 0
      month := data.getD 5 0
      year := readUint16 data 6
      rsv1 := data.getD 8 0
      second := data.getD 9 0
      minute := data.getD 10 0
      hour := data.getD 11 0
      seqNo := readUint16 data 12
      dataLen := readUint16 data 14 }

/-- The local time as `appendMessageHeader` casts it. -/
structure LocalTime where
  day : UInt8
  month : UInt8
  year : UInt16
  hour : UInt8
  minute : UInt8
  second : UInt8
  deriving DecidableEq, Repr

/-- What the frames depend on: the two identifiers of the link and the carpark identifier,
which is zero until the EEP has reported it. -/
structure ClientConfig where
  eepSourceId : ℤ
  eepDestinationId : ℤ
  eepCarparkID : UInt16
  deriving DecidableEq, Repr

/-- `EEPClient::appendMessageHeader` to an empty message. -/
def appendMessageHeader (config : ClientConfig) (now : LocalTime) (messageCode : MessageCode)
    (seqNo length : UInt16) : List UInt8 :=
  [UInt8.ofInt config.eepDestinationId, UInt8.ofInt config.eepSourceId, messageCode.toUInt8, 0x00,
    now.day, now.month] ++ (leBytes 2 now.year.toNat ++ ([0x00, now.second, now.minute, now.hour] ++
    (leBytes 2 seqNo.toNat ++ leBytes 2 length.toNat)))

/-- The loops of `calculateChecksumNoPadding`: whole words first, then the leftover bytes. -/
def checksumFrom (sum : UInt32) : List UInt8 → UInt32
  | b0 :: b1 :: b2 :: b3 :: rest => checksumFrom (sum + UInt32.ofNat (ofLeBytes [b0, b1, b2, b3])) rest
  | leftover => leftover.foldl (fun sum byte => sum + byte.toUInt32) sum

/-- `EEPClient::calculateChecksumNoPadding` -/
def calculateChecksumNoPadding (data : List UInt8) : UInt32 := checksumFrom 0 data

/-- The frame without its last four bytes. -/
def withoutCheckSum (data : List UInt8) : List UInt8 := data.take (data.length - 4)

/-- `EEPClient::isValidCheckSum` -/
def isValidCheckSum (data : List UInt8) : Bool :=
  if data.length < 4 then false
  else
    let dataCheckSum := UInt32.ofNat (ofLeBytes (data.drop (data.length - 4)))
    decide (dataCheckSum = calculateChecksumNoPadding (withoutCheckSum data))

/-- `EEPClient::parseMessage`: the header and the body, if it returns true. -/
def parseMessage (data : List UInt8) : Option (MessageHeader × List UInt8) := do
  let header ← MessageHeader.deserialize data
  let expectedTotalSize := headerSize + header.dataLen.toNat
  if data.length < expectedTotalSize then none
  else some (header, (data.drop headerSize).take header.dataLen.toNat)

/-! ## The commands -/

/-- A command that carries its data: without data it cannot be prepared. -/
def contentMessage (header : List UInt8) (data : Option CommandData) : List UInt8 × Bool :=
  match data with
  | some data => (header ++ data.serialize, true)
  | none => (header, false)

/-- The switch of `prepareCmd`: the message so far, and whether it could be prepared. -/
def commandMessage (config : ClientConfig) (now : LocalTime) (seqNo : UInt16) (type : CommandType)
    (data : Option CommandData) : List UInt8 × Bool :=
  let header (messageCode : MessageCode) (length : UInt16) : List UInt8 :=
    appendMessageHeader config now messageCode seqNo length
  match type with
  | .ack =>
      -- the sequence number of the packet that is acknowledged
      match data with
      | some (.ackData seqNo reqDatatypeCode rsv) =>
          (appendMessageHeader config now .ack seqNo 0x0004 ++
            (CommandData.ackData seqNo reqDatatypeCode rsv).serialize, true)
      | _ => ([], false)
  | .nak =>
      match data with
      | some (.nakData seqNo reqDatatypeCode reasonCode rsv) =>
          (appendMessageHeader config now .nak seqNo 0x0004 ++
            (CommandData.nakData seqNo reqDatatypeCode reasonCode rsv).serialize, true)
      | _ => ([], false)
  | .healthStatusReqCmd => (header .healthStatusRequest 0x0000, true)
  | .watchdogReqCmd =>
      if config.eepCarparkID ≠ 0 then
        (header .watchdogRequest 0x0004 ++ (leBytes 2 config.eepCarparkID.toNat ++ [0x00, 0x00]), true)
      else (header .watchdogRequest 0x0004, false)
  | .startReqCmd => (header .startRequest 0x0000, true)
  | .stopReqCmd => (header .stopRequest 0x0000, true)
  | .diReqCmd => (header .diStatusRequest 0x0000, true)
  | .doReqCmd => contentMessage (header .setDoRequest 0x0008) data
  | .setDiPortConfigCmd => contentMessage (header .setDiPortConfiguration 0x000C) data
  | .getObuInfoReqCmd => (header .getObuInformationRequest 0x0000, true)
  | .getObuInfoStopReqCmd => (header .getObuInformationStop 0x0000, true)
  | .deductReqCmd => contentMessage (header .deductRequest 0x0028) data
  | .deductStopReqCmd => contentMessage (header .deductStopRequest 0x0014) data
  | .transactionReqCmd => contentMessage (header .transactionRequest 0x0014) data
  | .cpoInfoDisplayReqCmd => contentMessage (header .cpoInformationDisplayRequest 0x0085) data
  | .carparkProcessCompleteNotificationReqCmd =>
      contentMessage (header .carparkProcessCompleteNotification 0x0014) data
  | .dsrcProcessCompleteNotificationReqCmd =>
      contentMessage (header .dsrcProcessCompleteNotification 0x0010) data
  | .stopReqOfRelatedInfoDistributionCmd =>
      contentMessage (header .stopRequestOfRelatedInformationDistribution 0x0010) data
  | .dsrcStatusReqCmd => (header .dsrcStatusRequest 0x0000, true)
  | .timeCalibrationReqCmd => contentMessage (header .timeCalibrationRequest 0x0008) data
  | .setCarparkAvailReqCmd => contentMessage (header .setParkingAvailable 0x0010) data
  | .cdDownloadReqCmd => (header .cdDownloadRequest 0x0000, true)
  | .eepRestartInquiryReqCmd => contentMessage (header .eepRestartInquiryResponse 0x0004) data
  | .unknownReqCmd | .eepIdle => ([], false)

/-- `EEPClient::prepareCmd`: the packet, and whether it could be prepared. -/
def prepareCmd (config : ClientConfig) (now : LocalTime) (seqNo : UInt16) (type : CommandType)
    (data : Option CommandData) : List UInt8 × Bool :=
  let (msg, success) := commandMessage config now seqNo type data
  if success && !msg.isEmpty then
    (msg ++ leBytes 4 (calculateChecksumNoPadding msg).toNat, success)
  else (msg, success)

end LinuxPBS.Eep

import Mathlib.Data.Nat.Notation
import LinuxPBS.Library.Feed

/-!
# Packets of the contactless smart card reader

An attention byte, one byte of code and type, the length of the whole frame, the payload
and a CRC, the numbers with their high byte first.  Nothing is stuffed: the receiver knows
the end of a frame from the length field alone, which it reads as soon as it has four
bytes.  `isRxResponseComplete` is that receiver and `parseFrame` the checks of
`handleReceivedCmd` that look at the frame only.
-/

namespace LinuxPBS.Lcsc

/-- The attention code every frame starts with. -/
def attentionCode : UInt8 := 0xA5

/-- `rxBuffer_.size()` -/
def rxBufferSize : ℕ := 1024

/-- `mCSCEvents` -/
inductive CscEvents
  | sGetStatusOK | sLoginSuccess | sLogoutSuccess | sGetIDSuccess | sGetBlcSuccess
  | sGetTimeSuccess | sGetDeductSuccess | sGetCardRecord | sCardFlushed | sSetTimeSuccess
  | sLogin1Success | sBLUploadSuccess | sCILUploadSuccess | sCFGUploadSuccess
  | sRSAUploadSuccess | sFWUploadSuccess
  | iWrongCommPort | sCorruptedCmd | sIncompleteCmd | sUnknown | rCorruptedCmd
  | sUnsupportedCmd | sUnsupportedMode | sLoginAuthFail | sNoCard | sCardError | sRFError
  | sMultiCard | sCardnotinlist | sCardAuthError | sLockedCard | sInadequatePurse
  | sCryptoError | sExpiredCard | sCardParaError | sChangedCard | sBlackCard
  | sRecordNotFlush | sNoLastTrans | sNoNeedFlush | sWrongSeed | iWrongAESKey
  | iFailWriteSettle | sLoginAlready | sNotLoadCfgFile | sIncorrectIndex | sBLUploadCorrupt
  | sCILUploadCorrupt | sCFGUploadCorrupt | sWrongCDfileSize | iCommPortError
  | sIni | sTimeout | sWrongCmd | sNoSeedForFlush | sSendcmdfail | rCRCError | rNotRespCmd
  deriving DecidableEq, Repr

/-! ## Packets -/

/-- `CscPacket` -/
structure CscPacket where
  attn : UInt8 := 0
  code : Bool := false
  type : UInt8 := 0
  len : UInt16 := 0
  payload : List UInt8 := []
  crc : UInt16 := 0
  deriving DecidableEq, Repr

/-- The two bytes of a number, the high one first. -/
def bytesOf (value : UInt16) : List UInt8 := [(value >>> 8).toUInt8, (value &&& 0xFF).toUInt8]

/-- The number of a high and a low byte. -/
def wordOf (high low : UInt8) : UInt16 := (high.toUInt16 <<< 8) ||| low.toUInt16

/-- `CscPacket::serializeWithoutCRC` -/
def CscPacket.serializeWithoutCrc (packet : CscPacket) : List UInt8 :=
  packet.attn :: ((packet.code.toUInt8 <<< 7) ||| (packet.type &&& 0x7F)) ::
    (bytesOf packet.len ++ packet.payload)

/-- `CscPacket::serialize` -/
def CscPacket.serialize (packet : CscPacket) : List UInt8 :=
  packet.serializeWithoutCrc ++ bytesOf packet.crc

/-- `CscPacket::deserialize`; the caller has checked that the data are as long as they say. -/
def CscPacket.deserialize : List UInt8 → CscPacket
  | attn :: codeAndType :: lenHigh :: lenLow :: rest =>
      let len := wordOf lenHigh lenLow
      let crc := rest.drop (len.toNat - 6)
      { attn := attn
        code := codeAndType &&& 0x80 ≠ 0
        type := codeAndType &&& 0x7F
        len := len
        payload := rest.take (len.toNat - 6)
        crc := wordOf (crc.getD 0 0) (crc.getD 1 0) }
  | _ => {}

/-! ## The CRC -/

/-- One of the eight rounds of `CRC16_CCITT` for a byte. -/
def crcRound (ch cl : UInt8) : UInt8 × UInt8 :=
  let hb1 := ch &&& 0x80
  let lb1 := cl &&& 0x80
  let ch := (ch &&& 0x7F) * 2
  let cl := (cl &&& 0x7F) * 2
  let ch := if lb1 = 0x80 then ch ||| 0x01 else ch
  if hb1 = 0x80 then (ch ^^^ 0x10, cl ^^^ 0x21) else (ch, cl)

def crcRounds : ℕ → UInt8 → UInt8 → UInt8 × UInt8
  | 0, ch, cl => (ch, cl)
  | n + 1, ch, cl => crcRounds n (crcRound ch cl).1 (crcRound ch cl).2

def crcBytes : List UInt8 → UInt8 → UInt8 → UInt8 × UInt8
  | [], ch, cl => (ch, cl)
  | byte :: rest, ch, cl =>
      crcBytes rest (crcRounds 8 (ch ^^^ byte) cl).1 (crcRounds 8 (ch ^^^ byte) cl).2

/-- `LCSCReader::CRC16_CCITT` -/
def crc16Ccitt (bytes : List UInt8) : UInt16 :=
  wordOf (crcBytes bytes 0xFF 0xFF).1 (crcBytes bytes 0xFF 0xFF).2

/-! ## The receiver -/

/-- `RX_STATE` -/
inductive RxState
  | rxStart
  | rxReceiving
  deriving DecidableEq, Repr

/-- `rxState_` and the first `rxNum_` bytes of `rxBuffer_`. -/
structure Receiver where
  rxState : RxState := .rxStart
  rxBuffer : List UInt8 := []
  deriving DecidableEq, Repr

/-- The length field of a frame of four bytes or more. -/
def dataLen (frame : List UInt8) : ℕ := (wordOf (frame.getD 2 0) (frame.getD 3 0)).toNat

/-- One byte in `isRxResponseComplete`, and whether it returns `true` behind it. -/
def Receiver.onByte (receiver : Receiver) (data : UInt8) : Receiver × Bool :=
  match receiver.rxState with
  | .rxStart =>
      if data = attentionCode then
        ({ rxState := .rxReceiving, rxBuffer := [data] }, false)
      else (receiver, false)
  | .rxReceiving =>
      if receiver.rxBuffer.length ≥ rxBufferSize then
        if data = attentionCode then ({ rxState := .rxReceiving, rxBuffer := [data] }, false)
        else ({}, false)
      else
        let stored := receiver.rxBuffer ++ [data]
        if stored.length < 4 then ({ receiver with rxBuffer := stored }, false)
        else if dataLen stored < 6 ∨ dataLen stored > rxBufferSize then ({}, false)
        else if stored.length = dataLen stored then
          ({ rxState := .rxStart, rxBuffer := stored }, true)
        else if stored.length > dataLen stored then ({}, false)
        else ({ receiver with rxBuffer := stored }, false)

/-- `LCSCReader::isRxResponseComplete`; what follows a complete frame in a chunk is dropped. -/
def isRxResponseComplete : Receiver → List UInt8 → Receiver × Bool :=
  Feed.feedUntil Receiver.onByte

/-! ## The checks of a frame -/

/-- The checks of `handleReceivedCmd` that do not look at the current command. -/
def parseFrame (msgDataBuff : List UInt8) : Except CscEvents CscPacket :=
  if msgDataBuff.length < 6 then .error .rCorruptedCmd
  else if msgDataBuff.head? ≠ some attentionCode then .error .rCorruptedCmd
  else if dataLen msgDataBuff ≠ msgDataBuff.length then .error .rCorruptedCmd
  else
    let msg := CscPacket.deserialize msgDataBuff
    if crc16Ccitt (msgDataBuff.take (msgDataBuff.length - 2)) ≠ msg.crc then .error .rCRCError
    else .ok msg

end LinuxPBS.Lcsc

import Mathlib.Logic.Function.Iterate
import LinuxPBS.Library.Feed

/-!
# The antenna serial frame

The model of `antenna.cpp`'s framing layer: `antennaCmdSendAsync`, which builds

```text
DLE STX  payload, DLE doubled  DLE ETX  crc low  crc high
```

in the 128-byte transmit buffer, and the six-state receiver
`receiveRxDataByte`, which undoes it one byte at a time.

Bytes are `UInt8`: the target is aarch64, where `char` is unsigned.  The checksum
is computed on `unsigned int` in the source and on `UInt32` here.  The receive
buffer is the 128-byte array itself together with `RxNum_`; a write past its end,
which is undefined in the source, leaves the array unchanged here and is only
visible in `rxNum`.  The `static char b` of `receiveRxDataByte` outlives the
call, so it is a field of the state.
-/

namespace LinuxPBS.Antenna

/-- `TX_BUF_SIZE` -/
def txBufSize : ℕ := 128

/-- `RX_BUF_SIZE` -/
def rxBufSize : ℕ := 128

/-- `STX` -/
def stx : UInt8 := 0x02

/-- `ETX` -/
def etx : UInt8 := 0x03

/-- `DLE` -/
def dle : UInt8 := 0x10

/-! ## The checksum -/

/-- One turn of the inner loop of `CRC16R_Calculate`. -/
def crcShift (crc : UInt32) : UInt32 :=
  if crc &&& 0x0001 ≠ 0 then (crc >>> 1) ^^^ 0x8408 else crc >>> 1

/-- One turn of the outer loop of `CRC16R_Calculate`. -/
def crcByte (crc : UInt32) (byte : UInt8) : UInt32 :=
  crcShift^[8] (crc ^^^ (byte.toUInt32 &&& 0xFF))

/-- `CRC16R_Calculate(s, len, crc)`; the length parameter is an `unsigned char`. -/
def crc16RCalculate (s : List UInt8) (len : UInt8) (crc : UInt32) : UInt32 :=
  (s.take len.toNat).foldl crcByte crc ^^^ 0xFFFF

/-! ## The transmitter -/

/-- `putByte`: append to the transmit buffer, or fail when it is full. -/
def putByte (txBuff : List UInt8) (value : UInt8) : Option (List UInt8) :=
  if txBuff.length ≥ txBufSize then none else some (txBuff ++ [value])

/-- The data loop of `antennaCmdSendAsync`, with `DLE` byte stuffing. -/
def putData : List UInt8 → List UInt8 → Option (List UInt8)
  | txBuff, [] => some txBuff
  | txBuff, value :: rest => do
      let txBuff ← if value = dle then putByte txBuff dle else some txBuff
      let txBuff ← putByte txBuff value
      putData txBuff rest

/-- The frame `antennaCmdSendAsync` hands to `async_write`: the first `TxNum_`
bytes of the transmit buffer, or `none` when one of the `putByte` calls fails. -/
def antennaCmdSend (dataBuff : List UInt8) : Option (List UInt8) := do
  let txBuff ← putByte [] dle
  let txBuff ← putByte txBuff stx
  let txBuff ← putData txBuff dataBuff
  let txBuff ← putByte txBuff dle
  let txBuff ← putByte txBuff etx
  -- ETX participates in CRC calculation.
  let tempBuffData := dataBuff ++ [etx]
  let txCrc := crc16RCalculate tempBuffData (UInt8.ofNat tempBuffData.length) 0xFFFF
  let txBuff ← putByte txBuff (txCrc &&& 0xFF).toUInt8
  putByte txBuff ((txCrc >>> 8) &&& 0xFF).toUInt8

/-! ## The receiver -/

/-- `RX_STATE` -/
inductive RxState
  | ignore
  | receiving
  | escape
  | escape2Start
  | rxCrc1
  | rxCrc2
  deriving DecidableEq, Repr

/-- The receiver's part of the `Antenna` object. -/
structure Receiver where
  rxState : RxState
  rxBuff : Vector UInt8 rxBufSize
  rxNum : ℕ
  /-- `static char b` of `receiveRxDataByte` -/
  b : UInt8
  deriving DecidableEq

/-- `memset(rxBuff, 0, sizeof(rxBuff))` -/
def emptyBuff : Vector UInt8 rxBufSize := Vector.replicate rxBufSize 0

namespace Receiver

/-- `rxBuff[RxNum_++] = c` -/
def store (receiver : Receiver) (c : UInt8) : Receiver :=
  { receiver with
    rxBuff := receiver.rxBuff.setIfInBounds receiver.rxNum c
    rxNum := receiver.rxNum + 1 }

/-- `RxNum_ = 0` and `memset` -/
def clear (receiver : Receiver) : Receiver :=
  { receiver with rxBuff := emptyBuff, rxNum := 0 }

/-- `resetState` -/
def resetState (receiver : Receiver) : Receiver :=
  { receiver.clear with rxState := .ignore }

/-- `handleIgnoreState` -/
def handleIgnoreState (receiver : Receiver) (c : UInt8) : Receiver :=
  if c = dle then { receiver with rxState := .escape2Start } else receiver

/-- `handleEscape2StartState` -/
def handleEscape2StartState (receiver : Receiver) (c : UInt8) : Receiver :=
  if c = stx then { receiver.clear with rxState := .receiving } else receiver.resetState

/-- `handleReceivingState` -/
def handleReceivingState (receiver : Receiver) (c : UInt8) : Receiver :=
  if c = dle then { receiver with rxState := .escape } else receiver.store c

/-- `handleEscapeState` -/
def handleEscapeState (receiver : Receiver) (c : UInt8) : Receiver :=
  if c = stx then { receiver.clear with rxState := .receiving }
  else if c = etx then { receiver.store c with rxState := .rxCrc1 }
  else if c = dle then { receiver.store c with rxState := .receiving }
  else receiver.resetState

/-- `handleRXCRC1State` -/
def handleRxCrc1State (receiver : Receiver) (c : UInt8) : Receiver :=
  { receiver with b := c, rxState := .rxCrc2 }

/-- `handleRXCRC2State`, with `rxcrc` at its initial value `0xFFFF`. -/
def handleRxCrc2State (receiver : Receiver) (c : UInt8) : Receiver × ℕ :=
  let receiver := { receiver with rxState := .ignore }
  let crc := ((c.toUInt32 <<< 8) ||| (receiver.b.toUInt32 &&& 0xFF)) &&& 0xFFFF
  let rxcrc := crc16RCalculate receiver.rxBuff.toList (UInt8.ofNat receiver.rxNum) 0xFFFF
  if rxcrc = crc then (receiver, receiver.rxNum) else (receiver.resetState, 0)

/-- `receiveRxDataByte` -/
def receiveRxDataByte (receiver : Receiver) (c : UInt8) : Receiver × ℕ :=
  match receiver.rxState with
  | .ignore => (receiver.handleIgnoreState c, 0)
  | .escape2Start => (receiver.handleEscape2StartState c, 0)
  | .receiving => (receiver.handleReceivingState c, 0)
  | .escape => (receiver.handleEscapeState c, 0)
  | .rxCrc1 => (receiver.handleRxCrc1State c, 0)
  | .rxCrc2 => receiver.handleRxCrc2State c

end Receiver

end LinuxPBS.Antenna

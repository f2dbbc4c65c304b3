import LinuxPBS.Antenna.Exchange
import LinuxPBS.Library.Machine

/-!
# The receive buffer

`receiveRxDataByte` stores a byte by `rxBuff[RxNum_++] = c`.  The transmitter's `putByte`
looks at `TX_BUF_SIZE` before it does the same; the receiver does not look at
`RX_BUF_SIZE`, and nothing but a `DLE` sequence or a failed read ends a frame.

What the receiver is for is said by `Line`: it takes the frames

```text
DLE STX  data, DLE doubled  DLE ETX  crc low  crc high
```

off the line, the data in a list that has no end.  `Linked` is the simulation: the receiver stands
where the line stands, and `RxNum_` is the length of the data so far.  So a write falls in
the buffer exactly if the data of the frame that is under way does.
-/

namespace LinuxPBS.Antenna

/-! ## The writes -/

namespace Receiver

/-- The byte is written into the buffer. -/
def Writes (receiver : Receiver) (c : UInt8) : Prop :=
  match receiver.rxState with
  | .receiving => c ≠ dle
  | .escape => c = etx ∨ c = dle
  | _ => False

instance (receiver : Receiver) (c : UInt8) : Decidable (receiver.Writes c) := by
  unfold Writes
  cases receiver.rxState <;> infer_instance

/-- What is written goes to the cell `RxNum_`. -/
theorem receiveRxDataByte_of_writes {receiver : Receiver} {c : UInt8} (hwrites : receiver.Writes c) :
    (receiver.receiveRxDataByte c).1.rxBuff = receiver.rxBuff.setIfInBounds receiver.rxNum c ∧
      (receiver.receiveRxDataByte c).1.rxNum = receiver.rxNum + 1 := by
  unfold Writes at hwrites
  unfold receiveRxDataByte
  cases hstate : receiver.rxState <;> rw [hstate] at hwrites
  case receiving =>
    simp only [handleReceivingState, if_neg hwrites]
    exact ⟨rfl, rfl⟩
  case escape =>
    rcases hwrites with rfl | rfl <;> exact ⟨rfl, rfl⟩
  all_goals exact hwrites.elim

/-- Without a write the buffer stays as it is or is cleared. -/
theorem receiveRxDataByte_of_not_writes {receiver : Receiver} {c : UInt8}
    (hwrites : ¬receiver.Writes c) :
    (receiver.receiveRxDataByte c).1.rxBuff = receiver.rxBuff ∧
        (receiver.receiveRxDataByte c).1.rxNum = receiver.rxNum ∨
      (receiver.receiveRxDataByte c).1.rxBuff = emptyBuff ∧
        (receiver.receiveRxDataByte c).1.rxNum = 0 := by
  unfold Writes at hwrites
  unfold receiveRxDataByte
  cases hstate : receiver.rxState <;> rw [hstate] at hwrites
  case receiving =>
    simp only [handleReceivingState, if_pos (not_not.mp hwrites), and_self, true_or]
  case escape =>
    rw [not_or] at hwrites
    simp only [handleEscapeState, if_neg hwrites.1, if_neg hwrites.2]
    split <;> exact Or.inr ⟨rfl, rfl⟩
  case ignore =>
    simp only [handleIgnoreState]
    split <;> exact Or.inl ⟨rfl, rfl⟩
  case escape2Start =>
    simp only [handleEscape2StartState]
    split <;> exact Or.inr ⟨rfl, rfl⟩
  case rxCrc1 => exact Or.inl ⟨rfl, rfl⟩
  case rxCrc2 =>
    simp only [handleRxCrc2State]
    split
    · exact Or.inl ⟨rfl, rfl⟩
    · exact Or.inr ⟨rfl, rfl⟩

/-- A write of this byte stays in the buffer. -/
def InBounds (receiver : Receiver) (c : UInt8) : Prop :=
  receiver.Writes c → receiver.rxNum < rxBufSize

end Receiver

/-! ## The line -/

/-- Where the line stands in the format of a frame; within a frame with its data so far, the
stuffing undone. -/
inductive Line
  | outside
  | opening
  | data (frame : List UInt8)
  | escaped (frame : List UInt8)
  | crcLow
  | crcHigh
  deriving DecidableEq

namespace Line

/-- The next byte on the line. -/
def next : Line → UInt8 → Line
  | .outside, c => if c = dle then .opening else .outside
  | .opening, c => if c = stx then .data [] else .outside
  | .data frame, c => if c = dle then .escaped frame else .data (frame ++ [c])
  | .escaped frame, c =>
      if c = stx then .data []
      else if c = etx then .crcLow
      else if c = dle then .data (frame ++ [c])
      else .outside
  | .crcLow, _ => .crcHigh
  | .crcHigh, _ => .outside

/-- With this byte the frame has no more data than the buffer has cells; the `ETX` counts. -/
def Fits : Line → UInt8 → Prop
  | .data frame, c => c ≠ dle → (frame ++ [c]).length ≤ rxBufSize
  | .escaped frame, c => c = etx ∨ c = dle → (frame ++ [c]).length ≤ rxBufSize
  | _, _ => True

end Line

/-! ## The simulation -/

/-- The receiver stands where the line stands. -/
def Linked (receiver : Receiver) : Line → Prop
  | .outside => receiver.rxState = .ignore
  | .opening => receiver.rxState = .escape2Start
  | .data frame => receiver.rxState = .receiving ∧ receiver.rxNum = frame.length
  | .escaped frame => receiver.rxState = .escape ∧ receiver.rxNum = frame.length
  | .crcLow => receiver.rxState = .rxCrc1
  | .crcHigh => receiver.rxState = .rxCrc2

theorem Linked.receive {receiver : Receiver} {line : Line} (hlinked : Linked receiver line)
    (c : UInt8) : Linked (receiver.receiveRxDataByte c).1 (line.next c) := by
  cases line with
  | outside =>
      have hstate : receiver.rxState = .ignore := hlinked
      simp only [Receiver.receiveRxDataByte, hstate, Receiver.handleIgnoreState, Line.next]
      split
      · rfl
      · exact hlinked
  | opening =>
      have hstate : receiver.rxState = .escape2Start := hlinked
      simp only [Receiver.receiveRxDataByte, hstate, Receiver.handleEscape2StartState, Line.next]
      split
      · exact ⟨rfl, rfl⟩
      · rfl
  | data frame =>
      obtain ⟨hstate, hnum⟩ := hlinked
      simp only [Receiver.receiveRxDataByte, hstate, Receiver.handleReceivingState, Line.next]
      split
      · exact ⟨rfl, hnum⟩
      · refine ⟨hstate, ?_⟩
        rw [List.length_append, ← hnum]
        rfl
  | escaped frame =>
      obtain ⟨hstate, hnum⟩ := hlinked
      simp only [Receiver.receiveRxDataByte, hstate, Receiver.handleEscapeState, Line.next]
      split
      · exact ⟨rfl, rfl⟩
      split
      · rfl
      split
      · refine ⟨rfl, ?_⟩
        rw [List.length_append, ← hnum]
        rfl
      · rfl
  | crcLow =>
      have hstate : receiver.rxState = .rxCrc1 := hlinked
      simp only [Receiver.receiveRxDataByte, hstate]
      rfl
  | crcHigh =>
      have hstate : receiver.rxState = .rxCrc2 := hlinked
      simp only [Receiver.receiveRxDataByte, hstate, Receiver.handleRxCrc2State, Line.next]
      split <;> rfl

theorem Linked.inBounds_iff {receiver : Receiver} {line : Line} (hlinked : Linked receiver line)
    (c : UInt8) : receiver.InBounds c ↔ line.Fits c := by
  unfold Receiver.InBounds Receiver.Writes
  cases line with
  | outside | opening | crcLow | crcHigh =>
      have hstate : receiver.rxState = _ := hlinked
      rw [hstate]
      exact iff_of_true False.elim trivial
  | data frame =>
      obtain ⟨hstate, hnum⟩ := hlinked
      rw [hstate, hnum]
      simp only [Line.Fits, List.length_append, List.length_singleton, Nat.lt_iff_add_one_le]
  | escaped frame =>
      obtain ⟨hstate, hnum⟩ := hlinked
      rw [hstate, hnum]
      simp only [Line.Fits, List.length_append, List.length_singleton, Nat.lt_iff_add_one_le]

/-- A receiver and the line it reads from. -/
structure Reading where
  receiver : Receiver
  line : Line
  linked : Linked receiver line

/-! ## Reads -/

/-- What the serial port brings: the bytes of a read, or the end of an attempt, which resets the
receiver. -/
inductive SerialEvent
  | read (buffer : List WireByte)
  | failed

namespace Reading

variable {reading : Reading} {c : WireByte} {rest : List WireByte}

/-- One byte of a read. -/
def receive (reading : Reading) (c : WireByte) : Reading :=
  ⟨(reading.receiver.receiveRxDataByte c.byte).1, reading.line.next c.byte,
    reading.linked.receive c.byte⟩

/-- `resetRxBuffer(); resetState();` -/
def reset (reading : Reading) : Reading := ⟨reading.receiver.resetState, .outside, rfl⟩

/-- The bytes of one read, as `responseIsComplete` hands them on. -/
def take : Reading → List WireByte → Reading
  | reading, [] => reading
  | reading, c :: rest =>
      if (reading.receiver.receiveRxDataByte c.byte).2 ≠ 0 then reading.receive c
      else take (reading.receive c) rest

/-- Every byte of one read that is handed on meets a condition. -/
def TakeMeets (allowed : Reading → UInt8 → Prop) : Reading → List WireByte → Prop
  | _, [] => True
  | reading, c :: rest =>
      allowed reading c.byte ∧
        ((reading.receiver.receiveRxDataByte c.byte).2 = 0 → TakeMeets allowed (reading.receive c) rest)

instance decidableTakeMeets {allowed : Reading → UInt8 → Prop}
    [∀ reading c, Decidable (allowed reading c)] :
    ∀ (reading : Reading) (buffer : List WireByte), Decidable (TakeMeets allowed reading buffer)
  | _, [] => inferInstanceAs (Decidable True)
  | reading, c :: rest =>
      haveI := @decidableTakeMeets allowed _ (reading.receive c) rest
      inferInstanceAs (Decidable (allowed reading c.byte ∧
        ((reading.receiver.receiveRxDataByte c.byte).2 = 0 →
          TakeMeets allowed (reading.receive c) rest)))

/-- The receiver of `take` is the one `responseIsComplete` leaves. -/
theorem receiver_take (reading : Reading) (buffer : List WireByte) :
    (reading.take buffer).receiver = (responseIsComplete reading.receiver buffer).1 := by
  induction buffer generalizing reading with
  | nil => rfl
  | cons c rest ih =>
      unfold take responseIsComplete
      dsimp only
      by_cases hcomplete : (reading.receiver.receiveRxDataByte c.byte).2 ≠ 0
      · rw [if_pos hcomplete, if_pos hcomplete]
        rfl
      · rw [if_neg hcomplete, if_neg hcomplete]
        exact ih (reading.receive c)

theorem takeMeets_congr {allowed other : Reading → UInt8 → Prop}
    (hiff : ∀ reading c, allowed reading c ↔ other reading c) (reading : Reading)
    (buffer : List WireByte) : TakeMeets allowed reading buffer ↔ TakeMeets other reading buffer := by
  induction buffer generalizing reading with
  | nil => exact Iff.rfl
  | cons c rest ih => exact and_congr (hiff reading c.byte) (imp_congr_right fun _ => ih _)

/-- One event of the serial port. -/
def step (reading : Reading) : SerialEvent → Reading
  | .read buffer => reading.take buffer
  | .failed => reading.reset

/-- Every write of this event stays in the buffer. -/
def WritesInBounds (reading : Reading) : SerialEvent → Prop
  | .read buffer => TakeMeets (fun reading c => reading.receiver.InBounds c) reading buffer
  | .failed => True

/-- No frame in this read has more than 128 bytes of data. -/
def FramesFit (reading : Reading) : SerialEvent → Prop
  | .read buffer => TakeMeets (fun reading c => reading.line.Fits c) reading buffer
  | .failed => True

/-- The antenna as it is constructed. -/
def initial : Reading := ⟨⟨.ignore, emptyBuff, 0, 0⟩, .outside, rfl⟩

end Reading

/-- Every write of every run stays in the buffer exactly if no frame on the line is longer than
it. -/
theorem writesInBounds_iff (events : List SerialEvent) :
    Machine.Meets Reading.step Reading.WritesInBounds Reading.initial events ↔
      Machine.Meets Reading.step Reading.FramesFit Reading.initial events := by
  refine Machine.meets_congr fun reading event => ?_
  cases event with
  | read buffer =>
      exact Reading.takeMeets_congr (fun reading c => reading.linked.inBounds_iff c) reading buffer
  | failed => exact Iff.rfl

/-! ## A frame that does not end -/

/-- `DLE STX` and 129 bytes, in one read. -/
def endlessFrame : List WireByte :=
  (dle :: stx :: List.replicate 129 0x41).map fun byte => ⟨byte, .forceGetIuNoCmd⟩

instance (receiver : Receiver) (c : UInt8) : Decidable (receiver.InBounds c) :=
  inferInstanceAs (Decidable (_ → _))

/-- The last byte is written behind the buffer. -/
theorem not_writesInBounds :
    ¬∀ events, Machine.Meets Reading.step Reading.WritesInBounds Reading.initial events := by
  intro hall
  have hread : Reading.TakeMeets (fun reading c => reading.receiver.InBounds c) Reading.initial
      endlessFrame := (hall [.read endlessFrame]).1
  revert hread
  decide +kernel

end LinuxPBS.Antenna

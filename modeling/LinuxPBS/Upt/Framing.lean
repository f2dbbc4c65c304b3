import Mathlib.Data.List.Infix
import Mathlib.Data.List.ReduceOption
import LinuxPBS.Library.Feed

/-!
# The terminal's serial frame

The framing layer of `upt.cpp`: `Message::FnAddDataTransparency`, which stuffs a
message between an `STX` and an `ETX`,

```text
02  message, with 02 as 10 00, 04 as 10 01 and 10 as 10 10  04
```

`Message::FnRemoveDataTransparency`, which undoes it, and the two-state receiver
`Upt::consumeReceivedBytes`.

The receiver never looks inside a frame, it only knows the two delimiters.  So the
argument has two halves.  A stuffed message has no delimiter of its own
(`stx_not_mem_stuffed`, `etx_not_mem_stuffed`), and a run of non-delimiters
between an `STX` and an `ETX` is handed on as it is from whatever state the
receiver is in (`feed_completeFrame`): noise, a truncated frame and the overflow
reset in front of it do not matter, because an `STX` always starts afresh.
-/

namespace LinuxPBS.Upt

open LinuxPBS.Feed

/-- `Upt::STX` -/
def stx : UInt8 := 0x02

/-- `Upt::DLE` -/
def dle : UInt8 := 0x10

/-- `Upt::ETX` -/
def etx : UInt8 := 0x04

/-- The values of `Upt::MSG_STATUS` that the modelled code returns or tests. -/
inductive MsgStatus
  | success
  | sendFailed
  | ackTimeout
  | rspTimeout
  | parseFailed
  | msgIntegrityFailed
  | msgLengthMismatch
  | msgLengthMinimum
  | msgLengthMaximum
  | msgDataTransparencyError
  | fieldLengthMinimum
  | fieldLengthInvalid
  deriving DecidableEq, Repr

/-! ## Data transparency -/

/-- The bytes one byte of the message is replaced by. -/
def addDataTransparencyByte (byte : UInt8) : List UInt8 :=
  if byte = 0x02 then [0x10, 0x00]
  else if byte = 0x04 then [0x10, 0x01]
  else if byte = 0x10 then [0x10, 0x10]
  else [byte]

/-- `Message::FnAddDataTransparency` -/
def fnAddDataTransparency (input : List UInt8) : List UInt8 :=
  stx :: input.flatMap addDataTransparencyByte ++ [etx]

/-- The loop of `FnRemoveDataTransparency`; `output` is what it has pushed so far. -/
def removeDataTransparency (output : List UInt8) : List UInt8 → MsgStatus × List UInt8
  | [] => (.success, output)
  | [byte] =>
      -- a last `10` has no next byte and is pushed as it is
      (.success, if byte ≠ 0x02 ∧ byte ≠ 0x04 then output ++ [byte] else output)
  | byte :: next :: rest =>
      if byte = 0x10 then
        if next = 0x00 then removeDataTransparency (output ++ [0x02]) rest
        else if next = 0x01 then removeDataTransparency (output ++ [0x04]) rest
        else if next = 0x10 then removeDataTransparency (output ++ [0x10]) rest
        else (.msgDataTransparencyError, [])
      else if byte ≠ 0x02 ∧ byte ≠ 0x04 then
        removeDataTransparency (output ++ [byte]) (next :: rest)
      else removeDataTransparency output (next :: rest)

/-- `Message::FnRemoveDataTransparency` -/
def fnRemoveDataTransparency (input : List UInt8) : MsgStatus × List UInt8 :=
  removeDataTransparency [] input

/-! ## The receiver -/

/-- `Upt::RX_STATE` -/
inductive RxState
  | rxStart
  | rxReceiving
  deriving DecidableEq, Repr

/-- `rxBuffer_.size()` -/
def rxBufferSize : ℕ := 65535

/-- `rxState_` and the first `rxNum_` bytes of `rxBuffer_`. -/
structure Receiver where
  rxState : RxState := .rxStart
  rxBuffer : List UInt8 := []
  deriving DecidableEq, Repr

/-- `resetRxBuffer` -/
def Receiver.resetRxBuffer (r : Receiver) : Receiver := { r with rxBuffer := [] }

/-- `rxBuffer_[rxNum_++] = byte` -/
def Receiver.store (r : Receiver) (byte : UInt8) : Receiver :=
  { r with rxBuffer := r.rxBuffer ++ [byte] }

/-- One turn of the loop of `consumeReceivedBytes`: the frame it passes to
`handleReceivedCmd`, if any. -/
def receiveByte (r : Receiver) (byte : UInt8) : Receiver × Option (List UInt8) :=
  if r.rxState = .rxStart then
    if byte ≠ stx then (r, none)
    else ({ r.resetRxBuffer.store byte with rxState := .rxReceiving }, none)
  else if byte = stx then (r.resetRxBuffer.store byte, none)
  else if r.rxBuffer.length ≥ rxBufferSize then
    -- buffer overflow: the byte is dropped with the frame
    ({ r.resetRxBuffer with rxState := .rxStart }, none)
  else if byte ≠ etx then (r.store byte, none)
  else ({ r.resetRxBuffer with rxState := .rxStart }, some (r.store byte).rxBuffer)

/-- `consumeReceivedBytes` on one read chunk, with the frames it passes to
`handleReceivedCmd` in order. -/
def consumeReceivedBytes (r : Receiver) (data : List UInt8) : Receiver × List (List UInt8) :=
  let run := feed receiveByte r data
  (run.1, run.2.reduceOption)

/-- The read loop: one call of `consumeReceivedBytes` for each chunk. -/
def readChunks (r : Receiver) : List (List UInt8) → Receiver × List (List UInt8)
  | [] => (r, [])
  | chunk :: rest =>
      let first := consumeReceivedBytes r chunk
      let last := readChunks first.1 rest
      (last.1, first.2 ++ last.2)

/-! ## Chunk boundaries do not matter -/

@[simp] theorem consumeReceivedBytes_nil (r : Receiver) : consumeReceivedBytes r [] = (r, []) := rfl

theorem consumeReceivedBytes_append (r : Receiver) (first second : List UInt8) :
    consumeReceivedBytes r (first ++ second) =
      ((consumeReceivedBytes (consumeReceivedBytes r first).1 second).1,
        (consumeReceivedBytes r first).2 ++
          (consumeReceivedBytes (consumeReceivedBytes r first).1 second).2) := by
  simp only [consumeReceivedBytes, feed_append, List.reduceOption_append]

theorem readChunks_eq (r : Receiver) (chunks : List (List UInt8)) :
    readChunks r chunks = consumeReceivedBytes r chunks.flatten := by
  induction chunks generalizing r with
  | nil => rfl
  | cons chunk rest ih =>
      rw [List.flatten_cons, consumeReceivedBytes_append, readChunks, ih]

/-! ## What the receiver takes for a frame -/

/-- A frame the receiver can hold: no delimiter between an `STX` and an `ETX`, and
not longer than the buffer. -/
def CompleteFrame (frame : List UInt8) : Prop :=
  ∃ body, frame = stx :: body ++ [etx] ∧ stx ∉ body ∧ etx ∉ body ∧ frame.length ≤ rxBufferSize

/-- What the receiver has stored is the end of what it has read, from the last `STX` on. -/
def Tail (r : Receiver) (read : List UInt8) : Prop :=
  r.rxState = .rxReceiving →
    ∃ body, r.rxBuffer = stx :: body ∧ stx ∉ body ∧ etx ∉ body ∧ r.rxBuffer <:+ read

theorem stx_ne_etx : stx ≠ etx := by decide

theorem Tail.start {r : Receiver} (hstart : r.rxState = .rxStart) (read : List UInt8) :
    Tail r read := by
  intro hreceiving
  rw [hstart] at hreceiving
  exact absurd hreceiving (by decide)

/-- One more byte keeps `Tail`, and a frame that comes out ends what has been read. -/
theorem Tail.receiveByte {r : Receiver} {read : List UInt8} (htail : Tail r read) (byte : UInt8) :
    Tail (receiveByte r byte).1 (read ++ [byte]) ∧
      ∀ frame, (receiveByte r byte).2 = some frame → CompleteFrame frame ∧ frame <:+ read ++ [byte] := by
  have hlone : [stx] <:+ read ++ [stx] := List.suffix_append _ _
  unfold Upt.receiveByte
  split_ifs with hstart hskip hstx hfull hetx
  · exact ⟨.start hstart _, by simp⟩
  · obtain rfl := not_not.mp hskip
    exact ⟨fun _ => ⟨[], rfl, by simp, by simp, hlone⟩, by simp⟩
  · subst hstx
    exact ⟨fun _ => ⟨[], rfl, by simp, by simp, hlone⟩, by simp⟩
  · exact ⟨.start rfl _, by simp⟩
  · -- an ordinary byte prolongs the stored tail
    refine ⟨fun hreceiving => ?_, by simp⟩
    obtain ⟨body, hbuffer, hs, he, hsuffix⟩ := htail hreceiving
    refine ⟨body ++ [byte], ?_, ?_, ?_, ?_⟩
    · simp only [Receiver.store, hbuffer, List.cons_append]
    · simp only [List.mem_append, List.mem_singleton, not_or]
      exact ⟨hs, fun h => hstx h.symm⟩
    · simp only [List.mem_append, List.mem_singleton, not_or]
      exact ⟨he, fun h => hetx h.symm⟩
    · exact List.suffix_append_self_iff.mpr hsuffix
  · obtain rfl := not_not.mp hetx
    refine ⟨.start rfl _, ?_⟩
    rintro frame ⟨rfl⟩
    have hreceiving : r.rxState = .rxReceiving := by
      cases hr : r.rxState with
      | rxStart => exact absurd hr hstart
      | rxReceiving => rfl
    obtain ⟨body, hbuffer, hs, he, hsuffix⟩ := htail hreceiving
    refine ⟨⟨body, ?_, hs, he, ?_⟩, List.suffix_append_self_iff.mpr hsuffix⟩
    · simp only [Receiver.store, hbuffer]
    · simp only [Receiver.store, List.length_append, List.length_singleton]
      omega

/-- Bytes without a complete frame of their own are swallowed. -/
theorem feed_noise {r : Receiver} {read noise : List UInt8} (htail : Tail r read)
    (hnone : ∀ frame, CompleteFrame frame → ¬frame <:+: read ++ noise) :
    (feed receiveByte r noise).2.reduceOption = [] := by
  induction noise generalizing r read with
  | nil => rfl
  | cons byte rest ih =>
      have hsplit : read ++ byte :: rest = read ++ [byte] ++ rest := by simp
      obtain ⟨hnext, hframe⟩ := htail.receiveByte byte
      have hrest := ih hnext (by rwa [hsplit] at hnone)
      cases hanswer : (Upt.receiveByte r byte).2 with
      | none => rw [feed_cons, hanswer, List.reduceOption_cons_of_none, hrest]
      | some frame =>
          obtain ⟨hcomplete, hsuffix⟩ := hframe frame hanswer
          refine absurd ?_ (hnone frame hcomplete)
          rw [hsplit]
          exact hsuffix.isInfix.trans (List.prefix_append _ _).isInfix

/-- An `STX` starts a frame in every state of the receiver. -/
theorem receiveByte_stx (r : Receiver) :
    receiveByte r stx = ({ rxState := .rxReceiving, rxBuffer := [stx] }, none) := by
  obtain ⟨rxState, rxBuffer⟩ := r
  cases rxState <;> rfl

/-- Inside a frame that fits, bytes other than the delimiters are stored in silence. -/
theorem silent_body (stored body : List UInt8) (hs : stx ∉ body) (he : etx ∉ body)
    (hfits : (stored ++ body).length ≤ rxBufferSize) :
    Silent receiveByte none { rxState := .rxReceiving, rxBuffer := stored } body
      { rxState := .rxReceiving, rxBuffer := stored ++ body } := by
  induction body generalizing stored with
  | nil => rw [List.append_nil]; exact .nil
  | cons byte rest ih =>
      simp only [List.mem_cons, not_or] at hs he
      have hroom : ¬stored.length ≥ rxBufferSize := by
        simp only [List.length_append, List.length_cons] at hfits
        omega
      have hsplit : stored ++ byte :: rest = stored ++ [byte] ++ rest := by simp
      refine .cons { rxState := .rxReceiving, rxBuffer := stored ++ [byte] } ?_ ?_
      · unfold receiveByte
        rw [if_neg (by simp), if_neg (Ne.symm hs.1), if_neg hroom, if_pos (Ne.symm he.1)]
        rfl
      · rw [hsplit]
        exact ih (stored ++ [byte]) hs.2 he.2 (by rwa [hsplit] at hfits)

/-- A complete frame is handed on as it is, whatever the receiver was doing before. -/
theorem feed_completeFrame (r : Receiver) {frame : List UInt8} (hframe : CompleteFrame frame) :
    consumeReceivedBytes r frame = ({}, [frame]) := by
  obtain ⟨body, rfl, hs, he, hlength⟩ := hframe
  have hbody : ([stx] ++ body).length < rxBufferSize := by
    simp only [List.length_append, List.length_cons, List.length_nil] at hlength ⊢
    omega
  have hsilent : Silent receiveByte none r (stx :: body)
      { rxState := .rxReceiving, rxBuffer := [stx] ++ body } :=
    .cons _ (receiveByte_stx r) (silent_body [stx] body hs he hbody.le)
  have hlast : receiveByte { rxState := .rxReceiving, rxBuffer := [stx] ++ body } etx =
      ({}, some (stx :: body ++ [etx])) := by
    unfold receiveByte
    rw [if_neg (by simp), if_neg stx_ne_etx.symm, if_neg (Nat.not_le.mpr hbody), if_neg (by simp)]
    rfl
  unfold consumeReceivedBytes
  simp only [hsilent.feed_concat hlast, List.reduceOption_append, List.reduceOption_replicate_none,
    List.nil_append]
  rfl

theorem consumeReceivedBytes_frames (r : Receiver) (frames : List (List UInt8))
    (hframes : ∀ frame ∈ frames, CompleteFrame frame) :
    (consumeReceivedBytes r frames.flatten).2 = frames := by
  induction frames generalizing r with
  | nil => rfl
  | cons frame rest ih =>
      rw [List.flatten_cons, consumeReceivedBytes_append,
        feed_completeFrame r (hframes frame List.mem_cons_self)]
      simp only [List.cons_append, List.nil_append]
      rw [ih {} fun other hother => hframes other (List.mem_cons_of_mem frame hother)]

/-- The bytes that pass in silence are exactly those without a complete frame. -/
theorem consumeReceivedBytes_eq_nil_iff (noise : List UInt8) :
    (consumeReceivedBytes {} noise).2 = [] ↔ ∀ frame, CompleteFrame frame → ¬frame <:+: noise := by
  constructor
  · rintro hsilent frame hframe ⟨before, after, rfl⟩
    rw [consumeReceivedBytes_append, consumeReceivedBytes_append,
      feed_completeFrame _ hframe] at hsilent
    simp at hsilent
  · intro hnone
    exact feed_noise (.start rfl []) (by simpa using hnone)

/-! ## A stuffed message is a complete frame -/

theorem stx_not_mem_stuffed (message : List UInt8) :
    stx ∉ message.flatMap addDataTransparencyByte := by
  simp only [List.mem_flatMap, not_exists, not_and]
  intro byte _
  unfold addDataTransparencyByte stx
  split_ifs with h2 h4 h10
  · decide
  · decide
  · decide
  · simpa using Ne.symm h2

theorem etx_not_mem_stuffed (message : List UInt8) :
    etx ∉ message.flatMap addDataTransparencyByte := by
  simp only [List.mem_flatMap, not_exists, not_and]
  intro byte _
  unfold addDataTransparencyByte etx
  split_ifs with h2 h4 h10
  · decide
  · decide
  · decide
  · simpa using Ne.symm h4

theorem completeFrame_fnAddDataTransparency {message : List UInt8}
    (hlength : (fnAddDataTransparency message).length ≤ rxBufferSize) :
    CompleteFrame (fnAddDataTransparency message) :=
  ⟨_, rfl, stx_not_mem_stuffed message, etx_not_mem_stuffed message, hlength⟩

/-! ## Removing the stuffing -/

/-- A delimiter that is not the last byte is dropped. -/
theorem removeDataTransparency_delimiter (output : List UInt8) {byte : UInt8}
    (hbyte : byte = stx ∨ byte = etx) (rest : List UInt8) :
    removeDataTransparency output (byte :: rest) = removeDataTransparency output rest := by
  cases rest with
  | nil => rcases hbyte with rfl | rfl <;> rfl
  | cons next rest =>
      rcases hbyte with rfl | rfl
      · rw [removeDataTransparency, if_neg (by decide), if_neg (by decide)]
      · rw [removeDataTransparency, if_neg (by decide), if_neg (by decide)]

/-- What one byte was replaced by is turned back into it. -/
theorem removeDataTransparency_byte (output : List UInt8) (byte : UInt8) {rest : List UInt8}
    (hrest : rest ≠ []) :
    removeDataTransparency output (addDataTransparencyByte byte ++ rest) =
      removeDataTransparency (output ++ [byte]) rest := by
  unfold addDataTransparencyByte
  split_ifs with h2 h4 h10
  · subst h2
    rfl
  · subst h4
    rfl
  · subst h10
    rfl
  · cases rest with
    | nil => exact absurd rfl hrest
    | cons next rest =>
        rw [List.singleton_append, removeDataTransparency, if_neg h10, if_pos ⟨h2, h4⟩]

theorem removeDataTransparency_stuffed (output message : List UInt8) :
    removeDataTransparency output (message.flatMap addDataTransparencyByte ++ [etx]) =
      (.success, output ++ message) := by
  induction message generalizing output with
  | nil => simp [removeDataTransparency, etx]
  | cons byte rest ih =>
      rw [List.flatMap_cons, List.append_assoc,
        removeDataTransparency_byte output byte (by simp), ih, List.append_assoc,
        List.singleton_append]

theorem fnRemove_fnAddDataTransparency (message : List UInt8) :
    fnRemoveDataTransparency (fnAddDataTransparency message) = (.success, message) := by
  unfold fnRemoveDataTransparency fnAddDataTransparency
  rw [List.cons_append, removeDataTransparency_delimiter [] (.inl rfl),
    removeDataTransparency_stuffed, List.nil_append]

/-- The receiver hands on exactly the stuffed frames, in order, behind any noise and over
any chunk boundaries, and each of them decodes to its message. -/
theorem readChunks_lossless (messages : List (List UInt8)) (noise : List UInt8)
    (chunks : List (List UInt8))
    (hlength : ∀ message ∈ messages, (fnAddDataTransparency message).length ≤ rxBufferSize)
    (hnoise : ∀ frame, CompleteFrame frame → ¬frame <:+: noise)
    (hchunks : chunks.flatten = noise ++ (messages.map fnAddDataTransparency).flatten) :
    (readChunks {} chunks).2 = messages.map fnAddDataTransparency ∧
      (readChunks {} chunks).2.map fnRemoveDataTransparency =
        messages.map fun message => (.success, message) := by
  have hframes : (readChunks {} chunks).2 = messages.map fnAddDataTransparency := by
    rw [readChunks_eq, hchunks, consumeReceivedBytes_append,
      (consumeReceivedBytes_eq_nil_iff noise).mpr hnoise, List.nil_append]
    apply consumeReceivedBytes_frames
    intro frame hframe
    obtain ⟨message, hmessage, rfl⟩ := List.mem_map.mp hframe
    exact completeFrame_fnAddDataTransparency (hlength message hmessage)
  refine ⟨hframes, ?_⟩
  rw [hframes, List.map_map]
  exact List.map_congr_left fun message _ => fnRemove_fnAddDataTransparency message

/-- A truncated frame in front, two messages made of delimiters, chunks that cut both. -/
theorem readChunks_lossless_truncated :
    (readChunks {} [[0x02, 0x55], [0x02, 0x10, 0x00, 0x10], [0x01, 0x10, 0x10, 0x04, 0x02], [0x04]]).2 =
      [fnAddDataTransparency [0x02, 0x04, 0x10], fnAddDataTransparency []] :=
  (readChunks_lossless [[0x02, 0x04, 0x10], []] [0x02, 0x55] _ (by decide)
    ((consumeReceivedBytes_eq_nil_iff _).mp (by decide)) (by decide)).1

end LinuxPBS.Upt

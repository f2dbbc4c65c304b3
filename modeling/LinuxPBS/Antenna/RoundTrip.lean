import Mathlib.Data.Nat.Bitwise
import Mathlib.Tactic.Common
import LinuxPBS.Antenna.Frame

/-!
# What the antenna transmitter sends, the receiver returns

`antennaCmdSend_eq` says what a transmitted frame is: the payload, stuffed,
between `DLE STX` and `DLE ETX`, followed by the two checksum bytes.  The
receiver is then followed through the frame.  The invariant is `Holds`: the
buffer contains exactly the bytes stored so far and zeros behind them.  It is
carried through the payload by `silent_stuff`, whose two cases are a plain byte,
stored at once, and a `DLE`, which passes through the escape state.

The checksum bytes are sent unstuffed; the receiver takes them by state and not
by value, so nothing has to be assumed about them except that together they are
the checksum (`recombine_crc`), which needs the checksum to have 16 bits
(`crc16RCalculate_lt`).
-/

namespace LinuxPBS.Antenna

open Feed

/-! ## The checksum has sixteen bits -/

theorem crcShift_lt {crc : UInt32} (hcrc : crc.toNat < 2 ^ 16) :
    (crcShift crc).toNat < 2 ^ 16 := by
  have hshift : (crc >>> 1).toNat < 2 ^ 16 := by
    rw [UInt32.toNat_shiftRight]
    exact lt_of_le_of_lt (Nat.shiftRight_le _ _) hcrc
  unfold crcShift
  split
  · rw [UInt32.toNat_xor]
    exact Nat.xor_lt_two_pow hshift (by decide)
  · exact hshift

theorem crcShift_iterate_lt {crc : UInt32} (hcrc : crc.toNat < 2 ^ 16) (n : ℕ) :
    (crcShift^[n] crc).toNat < 2 ^ 16 := by
  induction n generalizing crc with
  | zero => exact hcrc
  | succ n ih => exact ih (crcShift_lt hcrc)

theorem crcByte_lt {crc : UInt32} (hcrc : crc.toNat < 2 ^ 16) (byte : UInt8) :
    (crcByte crc byte).toNat < 2 ^ 16 := by
  refine crcShift_iterate_lt ?_ 8
  rw [UInt32.toNat_xor, UInt32.toNat_and]
  exact Nat.xor_lt_two_pow hcrc (lt_of_le_of_lt Nat.and_le_right (by decide))

theorem foldl_crcByte_lt (bytes : List UInt8) {crc : UInt32} (hcrc : crc.toNat < 2 ^ 16) :
    (bytes.foldl crcByte crc).toNat < 2 ^ 16 := by
  induction bytes generalizing crc with
  | nil => exact hcrc
  | cons byte rest ih => exact ih (crcByte_lt hcrc byte)

theorem crc16RCalculate_lt (s : List UInt8) (len : UInt8) :
    (crc16RCalculate s len 0xFFFF).toNat < 2 ^ 16 := by
  unfold crc16RCalculate
  rw [UInt32.toNat_xor]
  exact Nat.xor_lt_two_pow (foldl_crcByte_lt _ (by decide)) (by decide)

/-- The two bytes the transmitter splits a checksum into are put together again
by the receiver. -/
theorem recombine_crc {crc : UInt32} (hcrc : crc.toNat < 2 ^ 16) :
    ((((crc >>> 8) &&& 0xFF).toUInt8.toUInt32 <<< 8) |||
      ((crc &&& 0xFF).toUInt8.toUInt32 &&& 0xFF)) &&& 0xFFFF = crc := by
  apply UInt32.toNat_inj.mp
  have hlow : ∀ n : ℕ, n &&& 255 = n % 256 := fun n => Nat.and_two_pow_sub_one_eq_mod n 8
  have hword : ∀ n : ℕ, n &&& 65535 = n % 65536 := fun n => Nat.and_two_pow_sub_one_eq_mod n 16
  simp only [UInt32.toNat_and, UInt32.toNat_or, UInt32.toNat_shiftLeft, UInt32.toNat_shiftRight,
    UInt8.toNat_toUInt32, UInt32.toNat_toUInt8, UInt32.toNat_ofNat, Nat.reduceMod, Nat.reducePow,
    hlow, hword]
  have hhigh : (crc.toNat >>> 8) % 256 % 256 = crc.toNat / 256 := by
    rw [Nat.shiftRight_eq_div_pow]
    omega
  have hbyte : crc.toNat % 256 % 256 % 256 < 2 ^ 8 := by omega
  have hshift : (crc.toNat / 256) <<< 8 % 4294967296 = (crc.toNat / 256) <<< 8 := by
    rw [Nat.shiftLeft_eq]
    omega
  rw [hhigh, hshift, ← Nat.shiftLeft_add_eq_or_of_lt hbyte, Nat.shiftLeft_eq]
  omega

/-! ## The shape of a transmitted frame -/

theorem putByte_eq_some {txBuff : List UInt8} {value : UInt8} {result : List UInt8} :
    putByte txBuff value = some result ↔
      txBuff.length < txBufSize ∧ result = txBuff ++ [value] := by
  unfold putByte
  split
  · simp only [reduceCtorEq, false_iff, not_and]
    omega
  · rename_i hroom
    simp only [Option.some.injEq, @eq_comm _ result]
    exact ⟨fun h => ⟨not_le.mp hroom, h⟩, fun h => h.2⟩

theorem putData_eq_some {dataBuff txBuff result : List UInt8}
    (hresult : putData txBuff dataBuff = some result) : result = txBuff ++ stuff dle dataBuff := by
  induction dataBuff generalizing txBuff with
  | nil =>
      simp only [putData, Option.some.injEq] at hresult
      simp [hresult]
  | cons value rest ih =>
      by_cases hvalue : value = dle
      · subst hvalue
        simp only [putData, if_pos, Option.bind_eq_bind, Option.bind_eq_some_iff,
          putByte_eq_some] at hresult
        obtain ⟨_, ⟨_, rfl⟩, _, ⟨_, rfl⟩, hrest⟩ := hresult
        rw [ih hrest, stuff_cons_escape]
        simp
      · simp only [putData, if_neg hvalue, Option.bind_eq_bind, Option.bind_some,
          Option.bind_eq_some_iff, putByte_eq_some] at hresult
        obtain ⟨_, ⟨_, rfl⟩, hrest⟩ := hresult
        rw [ih hrest, stuff_cons_of_ne hvalue]
        simp

/-- The checksum `antennaCmdSendAsync` computes for a payload. -/
def txCrc (dataBuff : List UInt8) : UInt32 :=
  crc16RCalculate (dataBuff ++ [etx]) (UInt8.ofNat (dataBuff ++ [etx]).length) 0xFFFF

/-- Everything of a frame up to the low checksum byte. -/
def frameBody (dataBuff : List UInt8) : List UInt8 :=
  [dle, stx] ++ stuff dle dataBuff ++ [dle, etx] ++ [(txCrc dataBuff &&& 0xFF).toUInt8]

/-- A frame that fits the transmit buffer is the stuffed payload between its
delimiters, followed by the checksum, low byte first. -/
theorem antennaCmdSend_eq {dataBuff frame : List UInt8}
    (hframe : antennaCmdSend dataBuff = some frame) :
    frame = frameBody dataBuff ++ [((txCrc dataBuff >>> 8) &&& 0xFF).toUInt8] ∧
      frame.length ≤ txBufSize := by
  simp only [antennaCmdSend, Option.bind_eq_bind, Option.bind_eq_some_iff,
    putByte_eq_some] at hframe
  obtain ⟨_, ⟨_, rfl⟩, _, ⟨_, rfl⟩, body, hbody, _, ⟨_, rfl⟩, _, ⟨_, rfl⟩, _, ⟨_, rfl⟩,
    hlength, rfl⟩ := hframe
  have hstuff := putData_eq_some hbody
  subst hstuff
  refine ⟨by simp [frameBody, txCrc], ?_⟩
  rw [List.length_append, List.length_singleton]
  exact hlength

/-- The payload of a frame that fits, with its `ETX`, fits the receive buffer. -/
theorem length_lt_rxBufSize {dataBuff frame : List UInt8}
    (hframe : antennaCmdSend dataBuff = some frame) : dataBuff.length + 1 < rxBufSize := by
  obtain ⟨rfl, hlength⟩ := antennaCmdSend_eq hframe
  have hstuff := length_le_length_stuff dle dataBuff
  simp only [frameBody, List.length_append, List.length_cons, List.length_nil, txBufSize]
    at hlength
  unfold rxBufSize
  omega

/-! ## Following the receiver through a frame -/

namespace Receiver

/-- The receive buffer contains exactly `bytes`, and zeros behind them. -/
structure Holds (receiver : Receiver) (bytes : List UInt8) : Prop where
  rxNum_eq : receiver.rxNum = bytes.length
  rxBuff_eq : receiver.rxBuff.toList = bytes ++ List.replicate (rxBufSize - bytes.length) 0

theorem holds_clear (receiver : Receiver) : receiver.clear.Holds [] :=
  ⟨rfl, by simp [clear, emptyBuff]⟩

theorem Holds.store {receiver : Receiver} {bytes : List UInt8} (hholds : receiver.Holds bytes)
    (hroom : bytes.length < rxBufSize) (c : UInt8) : (receiver.store c).Holds (bytes ++ [c]) := by
  refine ⟨by simp [Receiver.store, hholds.rxNum_eq], ?_⟩
  obtain ⟨free, hfree⟩ : ∃ free, rxBufSize - bytes.length = free + 1 :=
    ⟨rxBufSize - bytes.length - 1, by omega⟩
  have hrest : rxBufSize - (bytes ++ [c]).length = free := by
    rw [List.length_append, List.length_singleton]
    omega
  rw [hrest]
  simp only [Receiver.store, Vector.toList_setIfInBounds, hholds.rxBuff_eq, hholds.rxNum_eq, hfree,
    List.replicate_succ, List.append_assoc, List.singleton_append]
  rw [List.set_append_right _ _ (le_refl _)]
  simp

end Receiver

open Receiver

/-- The receiver reads a stuffed payload silently and stores it unstuffed. -/
theorem silent_stuff (payload : List UInt8) :
    ∀ (receiver : Receiver) {bytes : List UInt8}, receiver.rxState = .receiving →
      receiver.Holds bytes → (bytes ++ payload).length < rxBufSize →
      ∃ final : Receiver, final.rxState = .receiving ∧ final.Holds (bytes ++ payload) ∧
        Silent receiveRxDataByte 0 receiver (stuff dle payload) final := by
  induction payload with
  | nil =>
      intro receiver bytes hstate hholds _
      exact ⟨receiver, hstate, by simpa using hholds, Silent.nil⟩
  | cons c rest ih =>
      intro receiver bytes hstate hholds hroom
      have hstored := hholds.store (by simp at hroom; omega) c
      obtain ⟨final, hfinal, hbytes, hsilent⟩ :=
        ih { receiver.store c with rxState := .receiving } rfl
          ⟨hstored.rxNum_eq, hstored.rxBuff_eq⟩ (by simpa using hroom)
      refine ⟨final, hfinal, by simpa using hbytes, ?_⟩
      by_cases hc : c = dle
      · -- a doubled DLE goes through the escape state and is stored there
        subst hc
        rw [stuff_cons_escape]
        refine Silent.cons { receiver with rxState := .escape } ?_
          (Silent.cons _ ?_ hsilent)
        · simp [receiveRxDataByte, hstate, handleReceivingState]
        · simp [receiveRxDataByte, handleEscapeState, Receiver.store, dle, stx, etx]
      · rw [stuff_cons_of_ne hc]
        refine Silent.cons _ ?_ hsilent
        simp [receiveRxDataByte, hstate, handleReceivingState, hc, Receiver.store]

/-- After `resetState` the receiver reads everything up to the low checksum byte
silently, and ends up waiting for the high one with the payload and its `ETX`
stored. -/
theorem silent_frameBody (receiver : Receiver) {payload : List UInt8}
    (hroom : payload.length + 1 < rxBufSize) :
    ∃ final : Receiver, final.rxState = .rxCrc2 ∧ final.Holds (payload ++ [etx]) ∧
      final.b = (txCrc payload &&& 0xFF).toUInt8 ∧
        Silent receiveRxDataByte 0 receiver.resetState (frameBody payload) final := by
  have hopening : Silent receiveRxDataByte 0 receiver.resetState [dle, stx]
      { receiver.resetState.clear with rxState := .receiving } := by
    refine Silent.cons { receiver.resetState with rxState := .escape2Start } ?_
      (Silent.cons _ ?_ Silent.nil)
    · simp [receiveRxDataByte, resetState, handleIgnoreState]
    · simp [receiveRxDataByte, handleEscape2StartState, clear]
  have hclear := holds_clear receiver.resetState
  obtain ⟨filled, hstate, hpayload, hsilent⟩ :=
    silent_stuff payload { receiver.resetState.clear with rxState := .receiving }
      rfl ⟨hclear.rxNum_eq, hclear.rxBuff_eq⟩ (by rw [List.nil_append]; omega)
  have hstored := hpayload.store (by rw [List.nil_append]; omega) etx
  have hclosing : Silent receiveRxDataByte 0 filled [dle, etx]
      { filled.store etx with rxState := .rxCrc1 } := by
    refine Silent.cons { filled with rxState := .escape } ?_
      (Silent.cons _ ?_ Silent.nil)
    · simp [receiveRxDataByte, hstate, handleReceivingState]
    · simp [receiveRxDataByte, handleEscapeState, Receiver.store, stx, etx]
  have hcrc : Silent receiveRxDataByte 0 { filled.store etx with rxState := .rxCrc1 }
      [(txCrc payload &&& 0xFF).toUInt8]
      { filled.store etx with rxState := .rxCrc2, b := (txCrc payload &&& 0xFF).toUInt8 } :=
    Silent.cons _ (by simp [receiveRxDataByte, handleRxCrc1State]) Silent.nil
  exact ⟨{ filled.store etx with rxState := .rxCrc2, b := (txCrc payload &&& 0xFF).toUInt8 },
    rfl, ⟨hstored.rxNum_eq, hstored.rxBuff_eq⟩, rfl,
    ((hopening.append hsilent).append hclosing).append hcrc⟩

/-- The high checksum byte completes the frame. -/
theorem receive_high_crc {receiver : Receiver} {payload : List UInt8}
    (hroom : payload.length + 1 < rxBufSize) (hstate : receiver.rxState = .rxCrc2)
    (hholds : receiver.Holds (payload ++ [etx]))
    (hlow : receiver.b = (txCrc payload &&& 0xFF).toUInt8) :
    receiver.receiveRxDataByte ((txCrc payload >>> 8) &&& 0xFF).toUInt8 =
      ({ receiver with rxState := .ignore }, payload.length + 1) := by
  have hlength : (payload ++ [etx]).length = payload.length + 1 := by simp
  have hsmall : (payload ++ [etx]).length < 256 := by
    rw [hlength]
    exact hroom.trans (by decide)
  have hcrc : crc16RCalculate receiver.rxBuff.toList (UInt8.ofNat receiver.rxNum) 0xFFFF =
      txCrc payload := by
    unfold txCrc crc16RCalculate
    rw [hholds.rxBuff_eq, hholds.rxNum_eq, UInt8.toNat_ofNat_of_lt' hsmall,
      List.take_append_of_le_length (le_refl _)]
  have hsplit := recombine_crc (crc16RCalculate_lt (payload ++ [etx])
    (UInt8.ofNat (payload ++ [etx]).length))
  simp only [receiveRxDataByte, hstate, handleRxCrc2State, hcrc, hlow]
  rw [if_pos (by exact hsplit.symm), hholds.rxNum_eq, hlength]

/-! ## The round trip -/

/-- Every frame the transmitter builds is received: the receiver answers `0` to
every byte but the last, the payload length plus one to the last, and its buffer
then holds the payload followed by `ETX` and nothing else. -/
theorem receive_antennaCmdSend (receiver : Receiver) {payload frame : List UInt8}
    (hframe : antennaCmdSend payload = some frame) :
    (feed receiveRxDataByte receiver.resetState frame).2 =
        List.replicate (frame.length - 1) 0 ++ [payload.length + 1] ∧
      (feed receiveRxDataByte receiver.resetState frame).1.Holds (payload ++ [etx]) := by
  have hroom := length_lt_rxBufSize hframe
  obtain ⟨rfl, -⟩ := antennaCmdSend_eq hframe
  obtain ⟨final, hstate, hholds, hlow, hsilent⟩ := silent_frameBody receiver hroom
  rw [hsilent.feed_concat (receive_high_crc hroom hstate hholds hlow)]
  exact ⟨by simp, hholds.rxNum_eq, hholds.rxBuff_eq⟩

/-- A payload made of the three delimiters survives: its frame is the one the
transmitter really builds, and the receiver ends with the three bytes and `ETX`. -/
theorem receive_antennaCmdSend_delimiters :
    antennaCmdSend [dle, stx, etx] = some [dle, stx, dle, dle, stx, etx, dle, etx, 52, 146] ∧
      (feed receiveRxDataByte (Receiver.resetState ⟨.ignore, emptyBuff, 0, 0⟩)
          [dle, stx, dle, dle, stx, etx, dle, etx, 52, 146]).2 = List.replicate 9 0 ++ [4] ∧
      (feed receiveRxDataByte (Receiver.resetState ⟨.ignore, emptyBuff, 0, 0⟩)
          [dle, stx, dle, dle, stx, etx, dle, etx, 52, 146]).1.Holds [dle, stx, etx, etx] :=
  have hframe : antennaCmdSend [dle, stx, etx] =
      some [dle, stx, dle, dle, stx, etx, dle, etx, 52, 146] := by decide +kernel
  ⟨hframe, receive_antennaCmdSend ⟨.ignore, emptyBuff, 0, 0⟩ hframe⟩

end LinuxPBS.Antenna

import Mathlib.Data.List.Infix

/-!
# Frames of the KSM reader

`STX`, a payload, `ETX` and a check byte, the exclusive or of all before it.  A payload
starts with the big-endian length of its rest; `buildCommandFrame` writes that length and
`readResponseFrame` does not read it, it takes the first `ETX` behind the `STX` for the
end.  Nothing is stuffed, so the length of a payload or its data may hold an `ETX` too.

`readResponseFrame_ack_iff` says which bytes are taken for a frame, and
`readResponseFrame_transport_iff` which payloads get through.
-/

namespace LinuxPBS.Ksm

/-- `STX` -/
def stx : UInt8 := 0x02

/-- `ETX` -/
def etx : UInt8 := 0x03

/-- `RX_FRAME_MAX_SIZE` -/
def rxFrameMaxSize : ℕ := 128

/-! ## Commands -/

/-- `KSMReaderCmdID` -/
inductive CmdId
  | initCmd
  | cardProhibitedCmd
  | cardAllowedCmd
  | cardOnIcCmd
  | icPowerOnCmd
  | warmResetCmd
  | selectFile1Cmd
  | selectFile2Cmd
  | readCardInfoCmd
  | readCardBalanceCmd
  | icPowerOffCmd
  | ejectToFrontCmd
  | getStatusCmd
  deriving DecidableEq, Repr

/-- `KSM_Reader::buildCommandPayload` -/
def buildCommandPayload : CmdId → List UInt8
  | .initCmd => [0x00, 0x02, 0x30, 0x31]
  | .cardProhibitedCmd => [0x00, 0x03, 0x2F, 0x31, 0x31]
  | .cardAllowedCmd => [0x00, 0x03, 0x2F, 0x33, 0x30]
  | .cardOnIcCmd => [0x00, 0x02, 0x32, 0x2F]
  | .icPowerOnCmd => [0x00, 0x02, 0x33, 0x30]
  | .warmResetCmd => [0x00, 0x02, 0x37, 0x2F]
  | .selectFile1Cmd =>
      [0x00, 0x0B, 0x37, 0x31, 0x00, 0x07, 0x00, 0xA4, 0x01, 0x00, 0x02, 0x01, 0x18]
  | .selectFile2Cmd =>
      [0x00, 0x0B, 0x37, 0x31, 0x00, 0x07, 0x00, 0xA4, 0x02, 0x00, 0x02, 0x00, 0x01]
  | .readCardInfoCmd => [0x00, 0x09, 0x37, 0x31, 0x00, 0x05, 0x00, 0xB0, 0x00, 0x00, 0x10]
  | .readCardBalanceCmd =>
      [0x00, 0x0D, 0x37, 0x31, 0x00, 0x09, 0x80, 0x32, 0x00, 0x03, 0x04, 0x00, 0x00, 0x00, 0x00]
  | .icPowerOffCmd => [0x00, 0x02, 0x33, 0x31]
  | .ejectToFrontCmd => [0x00, 0x02, 0x32, 0x31]
  | .getStatusCmd => [0x00, 0x02, 0x31, 0x30]

/-- The check byte in front of the `ETX`. -/
def bccOf (payload : List UInt8) : UInt8 := payload.foldl (· ^^^ ·) stx

/-- What `buildCommandFrame` makes of a payload. -/
def frameOf (payload : List UInt8) : List UInt8 :=
  stx :: payload ++ [etx, bccOf payload ^^^ etx]

/-- `KSM_Reader::buildCommandFrame`; no payload is empty. -/
def buildCommandFrame (cmd : CmdId) : List UInt8 := frameOf (buildCommandPayload cmd)

/-- The first two bytes of a payload are the big-endian length of the rest. -/
def LengthField : List UInt8 → Prop
  | high :: low :: rest => rest.length = high.toNat * 256 + low.toNat
  | _ => False

instance : DecidablePred LengthField := fun payload => by
  unfold LengthField
  split <;> infer_instance

/-! ## Responses -/

/-- `KSMReaderCmdRetCode` -/
inductive RetCode
  | commError
  | sendFailed
  | recvCmdNotFound
  | recvNoResp
  | recvNak
  | recvAck
  | recvCrcErr
  deriving DecidableEq, Repr

/-- How an `async_read` of one byte completes. -/
inductive Read
  | byte (byte : UInt8)
  /-- the response timer has cancelled it -/
  | timedOut
  /-- any other error -/
  | failed
  deriving DecidableEq, Repr

/-- The bytes of a stream that are read one by one. -/
def reads (bytes : List UInt8) : List Read := bytes.map .byte

/-- `ResponseReadResult` -/
structure ResponseReadResult where
  result : RetCode
  frame : List UInt8
  deriving DecidableEq, Repr

/-- The locals of `readResponseFrame`. -/
structure Receiver where
  receivingFrame : Bool := false
  waitingForBcc : Bool := false
  calculatedBcc : UInt8 := 0
  frame : List UInt8 := []
  deriving DecidableEq, Repr

/-- One round of the loop with a byte: the loop goes on, or the function returns. -/
def Receiver.onByte (r : Receiver) (byte : UInt8) : Receiver ⊕ ResponseReadResult :=
  if !r.receivingFrame then
    if byte ≠ stx then .inl r
    else .inl { r with receivingFrame := true, calculatedBcc := stx, frame := [byte] }
  else if r.waitingForBcc then
    if byte ≠ r.calculatedBcc then .inr ⟨.recvCrcErr, r.frame⟩ else .inr ⟨.recvAck, r.frame⟩
  else if r.frame.length ≥ rxFrameMaxSize then .inr ⟨.recvCrcErr, r.frame⟩
  else
    .inl { r with
      frame := r.frame ++ [byte]
      calculatedBcc := r.calculatedBcc ^^^ byte
      waitingForBcc := byte = etx }

/-- The loop of `readResponseFrame` over the completions of its reads, with those that are left;
`none` while it waits for the next one. -/
def receive (r : Receiver) : List Read → Option (ResponseReadResult × List Read)
  | [] => none
  | .byte byte :: rest =>
      match r.onByte byte with
      | .inl next => receive next rest
      | .inr result => some (result, rest)
  | .timedOut :: rest => some (⟨.recvNoResp, r.frame⟩, rest)
  | .failed :: rest => some (⟨.commError, r.frame⟩, rest)

/-- `KSM_Reader::readResponseFrame` on an open port -/
def readResponseFrame (stream : List Read) : Option (ResponseReadResult × List Read) :=
  receive {} stream

/-- The checks in front of `handleCommandResponse`: a return code, or `recvCmd`. -/
def recvCmd (dataBuff : List UInt8) : Except RetCode (List UInt8) :=
  if dataBuff.length < 6 then .error .recvCmdNotFound
  else if dataBuff.head? ≠ some stx then .error .recvCrcErr
  else if dataBuff.getLast? ≠ some etx then .error .recvCrcErr
  else
    let payload := dataBuff.tail.dropLast
    if payload.length < 4 then .error .recvCmdNotFound else .ok payload

/-! ## What is taken for a frame -/

variable {r : Receiver} {stream left : List Read} {result : ResponseReadResult}

theorem receive_byte_inl {next : Receiver} {byte : UInt8} (hbyte : r.onByte byte = .inl next)
    (rest : List Read) : receive r (.byte byte :: rest) = receive next rest := by
  simp only [receive, hbyte]

/-- Bytes in front of the `STX` are skipped. -/
theorem receive_noise {noise : List UInt8} (hnoise : stx ∉ noise)
    (hidle : r.receivingFrame = false) (rest : List Read) :
    receive r (reads noise ++ rest) = receive r rest := by
  induction noise with
  | nil => rfl
  | cons byte noise ih =>
      rw [List.mem_cons, not_or] at hnoise
      have hskip : r.onByte byte = .inl r := by
        simp [Receiver.onByte, hidle, Ne.symm hnoise.1]
      exact (receive_byte_inl hskip _).trans (ih hnoise.2)

/-- The receiver that has stored an `STX` and a part of a payload. -/
def collecting (payload : List UInt8) : Receiver :=
  { receivingFrame := true, calculatedBcc := bccOf payload, frame := stx :: payload }

theorem receive_stx (rest : List Read) :
    receive {} (.byte stx :: rest) = receive (collecting []) rest := rfl

theorem bccOf_concat (payload : List UInt8) (byte : UInt8) :
    bccOf (payload ++ [byte]) = bccOf payload ^^^ byte := by
  rw [bccOf, List.foldl_append]
  rfl

theorem onByte_collecting {payload : List UInt8} {byte : UInt8} (hbyte : byte ≠ etx)
    (hroom : payload.length + 1 < rxFrameMaxSize) :
    (collecting payload).onByte byte = .inl (collecting (payload ++ [byte])) := by
  have hshort : ¬ (stx :: payload).length ≥ rxFrameMaxSize := by
    rw [List.length_cons]
    omega
  simp only [Receiver.onByte, collecting, Bool.not_true, Bool.false_eq_true, if_false, if_neg hshort,
    hbyte, decide_false, bccOf_concat, List.cons_append]

/-- The receiver that waits for the check byte. -/
def closing (payload : List UInt8) : Receiver :=
  { receivingFrame := true
    waitingForBcc := true
    calculatedBcc := bccOf payload ^^^ etx
    frame := stx :: payload ++ [etx] }

theorem onByte_collecting_etx {payload : List UInt8}
    (hroom : payload.length + 1 < rxFrameMaxSize) :
    (collecting payload).onByte etx = .inl (closing payload) := by
  have hshort : ¬ (stx :: payload).length ≥ rxFrameMaxSize := by
    rw [List.length_cons]
    omega
  simp only [Receiver.onByte, collecting, closing, Bool.not_true, Bool.false_eq_true, if_false,
    if_neg hshort, decide_true, List.cons_append]

theorem onByte_collecting_full {payload : List UInt8} (byte : UInt8)
    (hfull : rxFrameMaxSize ≤ payload.length + 1) :
    (collecting payload).onByte byte = .inr ⟨.recvCrcErr, stx :: payload⟩ := by
  have hlong : (stx :: payload).length ≥ rxFrameMaxSize := hfull
  simp only [Receiver.onByte, collecting, Bool.not_true, Bool.false_eq_true, if_false]
  exact if_pos hlong

/-- Behind the `ETX` the next byte decides. -/
theorem receive_closing_ack_iff {payload frame : List UInt8} :
    receive (closing payload) stream = some (⟨.recvAck, frame⟩, left) ↔
      stream = .byte (bccOf payload ^^^ etx) :: left ∧ frame = stx :: payload ++ [etx] := by
  cases stream with
  | nil => simp [receive]
  | cons read rest =>
      cases read with
      | byte byte =>
          by_cases hbcc : byte = bccOf payload ^^^ etx
          · subst hbcc
            have hdone : (closing payload).onByte (bccOf payload ^^^ etx) =
                .inr ⟨.recvAck, stx :: payload ++ [etx]⟩ := by
              simp [Receiver.onByte, closing]
            simp only [receive, hdone, Option.some.injEq, Prod.mk.injEq,
              ResponseReadResult.mk.injEq, true_and, List.cons.injEq]
            exact ⟨fun h => ⟨h.2, h.1.symm⟩, fun h => ⟨h.2.symm, h.1⟩⟩
          · have hwrong : (closing payload).onByte byte =
                .inr ⟨.recvCrcErr, stx :: payload ++ [etx]⟩ := by
              simp [Receiver.onByte, closing, hbcc]
            simp [receive, hwrong, hbcc]
      | timedOut => simp [receive]
      | failed => simp [receive]

/-- What has still to come for the payload collected so far to become a frame. -/
def Completes (payload more frame : List UInt8) (stream left : List Read) : Prop :=
  etx ∉ more ∧ (payload ++ more).length + 2 ≤ rxFrameMaxSize ∧
    stream = reads (more ++ [etx, bccOf (payload ++ more) ^^^ etx]) ++ left ∧
    frame = stx :: (payload ++ more) ++ [etx]

theorem completes_nil {payload frame : List UInt8} (hroom : payload.length + 1 < rxFrameMaxSize) :
    Completes payload [] frame (.byte etx :: stream) left ↔
      stream = .byte (bccOf payload ^^^ etx) :: left ∧ frame = stx :: payload ++ [etx] := by
  have hfits : payload.length + 2 ≤ rxFrameMaxSize := hroom
  simp [Completes, reads, hfits]

theorem not_completes_etx {payload more frame : List UInt8} {byte : UInt8} :
    ¬ Completes payload (byte :: more) frame (.byte etx :: stream) left := by
  rintro ⟨hmore, -, hstream, -⟩
  rw [List.mem_cons, not_or] at hmore
  have hhead := (List.cons.inj hstream).1
  exact hmore.1 (Read.byte.inj hhead)

theorem completes_cons {payload more frame : List UInt8} {byte : UInt8} (hbyte : byte ≠ etx) :
    Completes payload (byte :: more) frame (.byte byte :: stream) left ↔
      Completes (payload ++ [byte]) more frame stream left := by
  simp [Completes, reads, Ne.symm hbyte]

theorem head_of_completes {payload more frame : List UInt8} {byte other : UInt8}
    (hcompletes : Completes payload (other :: more) frame (.byte byte :: stream) left) :
    other = byte :=
  (Read.byte.inj (List.cons.inj hcompletes.2.2.1).1).symm

/-- What completes a payload starts with a byte. -/
theorem byte_of_completes {payload more frame : List UInt8}
    (hcompletes : Completes payload more frame stream left) :
    ∃ byte rest, stream = .byte byte :: rest := by
  obtain ⟨-, -, rfl, -⟩ := hcompletes
  cases more with
  | nil => exact ⟨_, _, rfl⟩
  | cons byte more => exact ⟨_, _, rfl⟩

theorem receive_collecting_ack_iff {payload frame : List UInt8} :
    receive (collecting payload) stream = some (⟨.recvAck, frame⟩, left) ↔
      ∃ more, Completes payload more frame stream left := by
  induction stream generalizing payload with
  | nil => simp [receive, Completes, reads]
  | cons read rest ih =>
      cases read with
      | byte byte =>
          by_cases hroom : payload.length + 1 < rxFrameMaxSize
          · by_cases hbyte : byte = etx
            · subst hbyte
              rw [receive_byte_inl (onByte_collecting_etx hroom), receive_closing_ack_iff,
                ← completes_nil hroom]
              refine ⟨fun hnil => ⟨[], hnil⟩, ?_⟩
              rintro ⟨more, hmore⟩
              cases more with
              | nil => exact hmore
              | cons other more => exact absurd hmore not_completes_etx
            · rw [receive_byte_inl (onByte_collecting hbyte hroom), ih]
              constructor
              · rintro ⟨more, hmore⟩
                exact ⟨byte :: more, (completes_cons hbyte).mpr hmore⟩
              · rintro ⟨more, hmore⟩
                cases more with
                | nil => exact absurd (Read.byte.inj (List.cons.inj hmore.2.2.1).1) hbyte
                | cons other more =>
                    obtain rfl := head_of_completes hmore
                    exact ⟨more, (completes_cons hbyte).mp hmore⟩
          · have hfull := onByte_collecting_full byte (Nat.not_lt.mp hroom)
            constructor
            · intro hresult
              simp [receive, hfull] at hresult
            · rintro ⟨more, -, hfits, -⟩
              rw [List.length_append] at hfits
              omega
      | timedOut =>
          refine ⟨fun hread => by simp [receive] at hread, fun ⟨more, hmore⟩ => ?_⟩
          obtain ⟨byte, rest, heq⟩ := byte_of_completes hmore
          cases heq
      | failed =>
          refine ⟨fun hread => by simp [receive] at hread, fun ⟨more, hmore⟩ => ?_⟩
          obtain ⟨byte, rest, heq⟩ := byte_of_completes hmore
          cases heq

/-- The bytes that `readResponseFrame` takes for a frame: those between the first `STX` and the
first `ETX` behind it, whatever the length field says. -/
theorem readResponseFrame_ack_iff {frame : List UInt8} :
    readResponseFrame stream = some (⟨.recvAck, frame⟩, left) ↔
      ∃ noise payload, stx ∉ noise ∧ etx ∉ payload ∧ payload.length + 2 ≤ rxFrameMaxSize ∧
        stream = reads (noise ++ frameOf payload) ++ left ∧ frame = stx :: payload ++ [etx] := by
  unfold readResponseFrame
  constructor
  · intro hread
    induction stream with
    | nil => cases hread
    | cons read rest ih =>
        cases read with
        | byte byte =>
            by_cases hbyte : byte = stx
            · subst hbyte
              rw [receive_stx, receive_collecting_ack_iff] at hread
              obtain ⟨payload, hetx, hfits, rfl, rfl⟩ := hread
              exact ⟨[], payload, List.not_mem_nil, hetx, hfits, by simp [frameOf, reads], rfl⟩
            · have hskip : Receiver.onByte {} byte = .inl {} := by simp [Receiver.onByte, hbyte]
              rw [receive_byte_inl hskip] at hread
              obtain ⟨noise, payload, hnoise, hetx, hfits, rfl, rfl⟩ := ih hread
              refine ⟨byte :: noise, payload, ?_, hetx, hfits, rfl, rfl⟩
              rw [List.mem_cons, not_or]
              exact ⟨Ne.symm hbyte, hnoise⟩
        | timedOut => cases hread
        | failed => cases hread
  · rintro ⟨noise, payload, hnoise, hetx, hfits, rfl, rfl⟩
    rw [reads, List.map_append, List.append_assoc]
    refine (receive_noise hnoise rfl _).trans ?_
    show receive {} (.byte stx :: (reads (payload ++ [etx, bccOf payload ^^^ etx]) ++ left)) = _
    rw [receive_stx, receive_collecting_ack_iff]
    exact ⟨payload, hetx, hfits, rfl, rfl⟩

theorem recvCmd_frame {payload : List UInt8} (hlong : 4 ≤ payload.length) :
    recvCmd (stx :: payload ++ [etx]) = .ok payload := by
  have hframe : ¬ (stx :: payload ++ [etx]).length < 6 := by
    rw [List.length_append, List.length_cons, List.length_singleton]
    omega
  have hlast : (stx :: payload ++ [etx]).getLast? = some etx := List.getLast?_concat
  have hmiddle : (stx :: payload ++ [etx]).tail.dropLast = payload := List.dropLast_concat
  unfold recvCmd
  rw [if_neg hframe, if_neg (by simp), hlast, if_neg (by simp)]
  dsimp only
  rw [hmiddle, if_neg (Nat.not_lt.mpr hlong)]

/-! ## Which payloads get through -/

/-- A frame whose payload has the length its first two bytes say. -/
def LengthMatches (frame : List UInt8) : Prop :=
  ∃ payload, frame = stx :: payload ++ [etx] ∧ LengthField payload

/-- No frame of another length is returned. -/
def OnlyMatching (stream : List Read) : Prop :=
  ∀ frame left, readResponseFrame stream = some (⟨.recvAck, frame⟩, left) → LengthMatches frame

/-- The stream starts, behind bytes other than `STX`, with a frame around a payload without an
`ETX` whose length is not the one it says. -/
def Cut (stream : List Read) : Prop :=
  ∃ noise payload left, stx ∉ noise ∧ etx ∉ payload ∧ payload.length + 2 ≤ rxFrameMaxSize ∧
    stream = reads (noise ++ frameOf payload) ++ left ∧ ¬ LengthField payload

theorem frame_inj {first second : List UInt8}
    (heq : stx :: first ++ [etx] = stx :: second ++ [etx]) : first = second := by
  have htail : first ++ [etx] = second ++ [etx] := (List.cons.inj heq).2
  exact List.append_cancel_right htail

theorem onlyMatching_iff (stream : List Read) : OnlyMatching stream ↔ ¬ Cut stream := by
  constructor
  · rintro honly ⟨noise, payload, left, hnoise, hetx, hfits, hstream, hlength⟩
    obtain ⟨other, heq, hother⟩ := honly (stx :: payload ++ [etx]) left
      (readResponseFrame_ack_iff.mpr ⟨noise, payload, hnoise, hetx, hfits, hstream, rfl⟩)
    exact hlength (frame_inj heq ▸ hother)
  · intro hcut frame left hread
    obtain ⟨noise, payload, hnoise, hetx, hfits, hstream, rfl⟩ :=
      readResponseFrame_ack_iff.mp hread
    refine ⟨payload, rfl, ?_⟩
    by_contra hlength
    exact hcut ⟨noise, payload, left, hnoise, hetx, hfits, hstream, hlength⟩

/-- A payload comes through exactly if none of its bytes is an `ETX`, and no frame of a wrong
length is returned from a stream exactly if it does not start with one. -/
theorem readResponseFrame_transport_iff (noise payload : List UInt8) :
    (stx ∉ noise → LengthField payload → payload.length + 2 ≤ rxFrameMaxSize →
      ∀ left, readResponseFrame (reads (noise ++ frameOf payload) ++ left) =
        some (⟨.recvAck, stx :: payload ++ [etx]⟩, left) ↔ etx ∉ payload) ∧
    ∀ stream, OnlyMatching stream ↔ ¬ Cut stream := by
  refine ⟨fun hnoise _ hfits left => ⟨fun hread => ?_, fun hetx => ?_⟩, onlyMatching_iff⟩
  · obtain ⟨-, cut, -, hcut, -, -, hframe⟩ := readResponseFrame_ack_iff.mp hread
    exact frame_inj hframe ▸ hcut
  · exact readResponseFrame_ack_iff.mpr ⟨noise, payload, hnoise, hetx, hfits, rfl, rfl⟩

theorem readResponseFrame_cardOnIc :
    LengthField (buildCommandPayload .cardOnIcCmd) ∧
      readResponseFrame (reads ([0x00, 0x06] ++ buildCommandFrame .cardOnIcCmd)) =
        some (⟨.recvAck, stx :: buildCommandPayload .cardOnIcCmd ++ [etx]⟩, []) := by
  refine ⟨by decide, ?_⟩
  have hiff := (readResponseFrame_transport_iff [0x00, 0x06] (buildCommandPayload .cardOnIcCmd)).1
    (by decide) (by decide) (by decide) []
  rw [List.append_nil] at hiff
  exact hiff.mpr (by decide)

/-- The payload of the command `CARD_ALLOWED` is right and does not come through, and a payload
of two bytes that announces five comes through. -/
theorem not_readResponseFrame_transport :
    (LengthField (buildCommandPayload .cardAllowedCmd) ∧
      readResponseFrame (reads (buildCommandFrame .cardAllowedCmd)) ≠
        some (⟨.recvAck, stx :: buildCommandPayload .cardAllowedCmd ++ [etx]⟩, [])) ∧
    readResponseFrame (reads (frameOf [0x00, 0x05])) = some (⟨.recvAck, [stx, 0x00, 0x05, etx]⟩, []) ∧
      ¬ LengthField [0x00, 0x05] := by
  decide

end LinuxPBS.Ksm

import LinuxPBS.Ksm.CardData

/-!
# The answers of the KSM reader

A frame is handed to `handleCommandResponse` together with the command that is being
executed, and is processed by its own code.  The command is compared only for the
code `37 31`, and there it says which step of the chain the frame stands for, not
which command it was sent for.  Nothing is flushed between two commands, so a
frame, or the `ACK` in front of it, that arrives after its command has timed out is
taken for the next one's.

`served_iff` says which payloads are processed, and `framesBelong_iff` when only
answers to the command are.
-/

namespace LinuxPBS.Ksm

/-! ## Frames and commands -/

/-- The two code bytes of a payload. -/
def codeOf (payload : List UInt8) : UInt8 × UInt8 := (payload.getD 2 0, payload.getD 3 0)

/-- A frame handed to `handleCommandResponse`. -/
structure Handed where
  cmd : CmdId
  yyyymm : String
  frame : List UInt8
  sentFor : Option CmdId
  deriving DecidableEq, Repr

/-- The frame that is handed to `handleCommandResponse` in a step. -/
def Loop.handed (s : Loop) : Input → Option Handed
  | .read (.byte byte) yyyymm sentFor =>
      match s.task with
      | .receiving cmd receiver =>
          match receiver.onByte byte with
          | .inr ⟨.recvAck, frame⟩ => some { cmd, yyyymm, frame, sentFor }
          | _ => none
      | _ => none
  | _ => none

/-- The payload between `STX` and `ETX`. -/
def Handed.payload (h : Handed) : List UInt8 := h.frame.tail.dropLast

/-- The frame has the code of the command, and for the code that four commands share it was
sent for this one. -/
def Handed.Belongs (h : Handed) : Prop :=
  codeOf h.payload = codeOf (buildCommandPayload h.cmd) ∧
    (codeOf h.payload = (0x37, 0x31) → h.sentFor = some h.cmd)

/-- The handler rejects the frame and leaves the reader as it is. -/
def Handed.Rejected (h : Handed) (r : Reader) : Prop :=
  (r.handleCommandResponse h.cmd h.yyyymm h.frame).1 ≠ .recvAck ∧
    (r.handleCommandResponse h.cmd h.yyyymm h.frame).2 = r

/-! ## Payloads that are processed -/

/-- The codes that are processed whatever the command. -/
def plainCodes : List (UInt8 × UInt8) :=
  [(0x2F, 0x31), (0x2F, 0x33), (0x30, 0x31), (0x32, 0x2F), (0x32, 0x31), (0x33, 0x30),
    (0x33, 0x31), (0x37, 0x2F)]

/-- The length a card command asks of its answer; the other commands have none. -/
def cardLength : CmdId → Option ℕ
  | .selectFile1Cmd => some 5
  | .selectFile2Cmd => some 5
  | .readCardInfoCmd => some 22
  | .readCardBalanceCmd => some 11
  | _ => none

/-- The payloads that are processed while a command is being executed. -/
def Served (cmd : CmdId) (payload : List UInt8) : Prop :=
  codeOf payload ∈ plainCodes ∨
    (codeOf payload = (0x31, 0x30) ∧ 5 ≤ payload.length) ∨
    (codeOf payload = (0x37, 0x31) ∧ payload.getD 4 0 ≠ 0x4E ∧
      ∃ length ∈ cardLength cmd, length ≤ payload.length)

/-- A branch of the handler either processes the payload, or rejects it and changes nothing. -/
def Decides (r : Reader) (accepted : Prop) (outcome : RetCode × Reader) : Prop :=
  (accepted ∧ outcome.1 = .recvAck) ∨ (¬ accepted ∧ outcome.1 ≠ .recvAck ∧ outcome.2 = r)

variable {r : Reader} {cmd : CmdId} {yyyymm : String} {payload : List UInt8}

theorem Decides.accept {accepted : Prop} (haccepted : accepted) (after : Reader) :
    Decides r accepted (.recvAck, after) := .inl ⟨haccepted, rfl⟩

theorem Decides.reject {accepted : Prop} (haccepted : ¬ accepted) {result : RetCode}
    (hresult : result ≠ .recvAck) : Decides r accepted (result, r) :=
  .inr ⟨haccepted, hresult, rfl⟩

theorem decides_getStatus (r : Reader) (payload : List UInt8) :
    Decides r (5 ≤ payload.length) (r.getStatus payload) := by
  unfold Reader.getStatus
  by_cases hshort : payload.length < 5
  · rw [if_pos hshort]
    exact .reject (Nat.not_le.mpr hshort) (by decide)
  · rw [if_neg hshort]
    left
    refine ⟨Nat.not_lt.mp hshort, ?_⟩
    dsimp only
    split_ifs <;> rfl

theorem decides_readCardInfo (r : Reader) (yyyymm : String) (payload : List UInt8) :
    Decides r (22 ≤ payload.length) (r.readCardInfo yyyymm payload) := by
  unfold Reader.readCardInfo
  by_cases hshort : payload.length < 22
  · rw [if_pos hshort]
    exact .reject (Nat.not_le.mpr hshort) (by decide)
  · rw [if_neg hshort]
    dsimp only
    rw [if_neg (length_expireDateStr (Nat.not_lt.mp hshort))]
    exact .accept (Nat.not_lt.mp hshort) _

theorem decides_readCardBalance (r : Reader) (payload : List UInt8) :
    Decides r (11 ≤ payload.length) (r.readCardBalance payload) := by
  unfold Reader.readCardBalance
  by_cases hshort : payload.length < 11
  · rw [if_pos hshort]
    exact .reject (Nat.not_le.mpr hshort) (by decide)
  · rw [if_neg hshort]
    exact .accept (Nat.not_lt.mp hshort) _

theorem decides_cardCommand (r : Reader) (cmd : CmdId) (yyyymm : String) (payload : List UInt8) :
    Decides r (payload.getD 4 0 ≠ 0x4E ∧ ∃ length ∈ cardLength cmd, length ≤ payload.length)
      (r.cardCommand cmd yyyymm payload) := by
  unfold Reader.cardCommand
  by_cases hshort : payload.length < 5
  · rw [if_pos hshort]
    refine .reject ?_ (by decide)
    rintro ⟨-, length, hlength, hle⟩
    cases cmd <;> simp only [cardLength, Option.mem_def, Option.some_inj, reduceCtorEq] at hlength
    all_goals omega
  · rw [if_neg hshort]
    by_cases hrefused : payload.getD 4 0 = 0x4E
    · rw [if_pos hrefused]
      exact .reject (fun h => h.1 hrefused) (by decide)
    · rw [if_neg hrefused]
      simp only [ne_eq, hrefused, not_false_eq_true, true_and]
      cases cmd with
      | selectFile1Cmd => exact .accept ⟨5, rfl, Nat.not_lt.mp hshort⟩ _
      | selectFile2Cmd => exact .accept ⟨5, rfl, Nat.not_lt.mp hshort⟩ _
      | readCardInfoCmd => simpa [cardLength] using decides_readCardInfo r yyyymm payload
      | readCardBalanceCmd => simpa [cardLength] using decides_readCardBalance r payload
      | _ => exact .reject (by simp [cardLength]) (by decide)

/-- What the handler does with a payload is decided by its codes, its length and its status. -/
theorem decides_respond (r : Reader) (cmd : CmdId) (yyyymm : String) (payload : List UInt8) :
    Decides r (Served cmd payload) (r.respond cmd yyyymm payload) := by
  have hserved : Served cmd payload ↔ codeOf payload ∈ plainCodes ∨
      (codeOf payload = (0x31, 0x30) ∧ 5 ≤ payload.length) ∨
      (codeOf payload = (0x37, 0x31) ∧ payload.getD 4 0 ≠ 0x4E ∧
        ∃ length ∈ cardLength cmd, length ≤ payload.length) := Iff.rfl
  have hstatus := decides_getStatus r payload
  have hcard := decides_cardCommand r cmd yyyymm payload
  unfold Reader.respond
  rw [hserved, codeOf]
  generalize payload.getD 2 0 = msb
  generalize payload.getD 3 0 = lsb
  dsimp only
  split_ifs with h1 h2 h3 h4 h5 h6 h7 h8 h9 h10 h11 h12 h13 h14 h15
  · exact .accept (by simp [plainCodes, h1, h2]) _
  · exact .accept (by simp [plainCodes, h1, h3]) _
  · exact .reject (by simp [plainCodes, h1, h2, h3]) (by decide)
  · exact .accept (by simp [plainCodes, h4, h5]) _
  · exact .reject (by simp [plainCodes, h4, h5]) (by decide)
  · simpa [plainCodes, h6] using hstatus
  · exact .accept (by simp [plainCodes, h7, h8]) _
  · exact .accept (by simp [plainCodes, h7, h9]) _
  · exact .reject (by simp [plainCodes, h7, h8, h9]) (by decide)
  · exact .accept (by simp [plainCodes, h10, h11]) _
  · exact .accept (by simp [plainCodes, h10, h12]) _
  · exact .reject (by simp [plainCodes, h10, h11, h12]) (by decide)
  · exact .accept (by simp [plainCodes, h13, h14]) _
  · simpa [plainCodes, h13, h15] using hcard
  · exact .reject (by simp [plainCodes, h13, h14, h15]) (by decide)
  · have hstatus : ¬ (msb = 0x31 ∧ lsb = 0x30) := h6
    exact .reject (by simp [plainCodes, h1, h4, h7, h10, h13, hstatus]) (by decide)

theorem Served.long (hserved : Served cmd payload) : 4 ≤ payload.length := by
  by_contra hshort
  have hlsb : payload.getD 3 0 = 0 := List.getD_eq_default payload 0 (by omega)
  unfold Served codeOf at hserved
  rw [hlsb] at hserved
  simp [plainCodes] at hserved

/-- A frame around a payload is processed exactly if the payload is served. -/
theorem decides_handleCommandResponse (r : Reader) (cmd : CmdId) (yyyymm : String)
    (payload : List UInt8) :
    Decides r (Served cmd payload)
      (r.handleCommandResponse cmd yyyymm (stx :: payload ++ [etx])) := by
  unfold Reader.handleCommandResponse
  by_cases hlong : 4 ≤ payload.length
  · rw [recvCmd_frame hlong]
    exact decides_respond r cmd yyyymm payload
  · have hframe : (stx :: payload ++ [etx]).length < 6 := by
      rw [List.length_append, List.length_cons, List.length_singleton]
      omega
    rw [recvCmd, if_pos hframe]
    exact .reject (fun hserved => hlong hserved.long) (by decide)

/-! ## The frames of a run -/

/-- What `readResponseFrame` may have collected. -/
def Receiver.WellFormed (receiver : Receiver) : Prop :=
  receiver = {} ∨ ∃ payload, receiver = collecting payload ∨ receiver = closing payload

/-- The receiver is well-formed whenever a frame is being read. -/
def Loop.WellFormed (s : Loop) : Prop :=
  ∀ cmd receiver, s.task = .receiving cmd receiver → receiver.WellFormed

/-- Behind the `ETX` the receiver returns. -/
theorem onByte_closing (payload : List UInt8) (byte : UInt8) :
    ∃ result, (closing payload).onByte byte = .inr ⟨result, stx :: payload ++ [etx]⟩ := by
  simp only [Receiver.onByte, closing, Bool.not_true, Bool.false_eq_true, if_false, if_true]
  by_cases hbcc : byte = bccOf payload ^^^ etx
  · exact ⟨.recvAck, if_neg (not_not.mpr hbcc)⟩
  · exact ⟨.recvCrcErr, if_pos hbcc⟩

theorem Receiver.WellFormed.onByte {receiver next : Receiver} {byte : UInt8}
    (hreceiver : receiver.WellFormed) (hnext : receiver.onByte byte = .inl next) :
    next.WellFormed := by
  rcases hreceiver with rfl | ⟨payload, rfl | rfl⟩
  · by_cases hbyte : byte = stx
    · subst hbyte
      exact .inr ⟨[], .inl (Sum.inl.inj hnext).symm⟩
    · have hskip : Receiver.onByte {} byte = .inl {} := by simp [Receiver.onByte, hbyte]
      exact .inl (Sum.inl.inj (hskip.symm.trans hnext)).symm
  · by_cases hroom : payload.length + 1 < rxFrameMaxSize
    · by_cases hbyte : byte = etx
      · subst hbyte
        have hclosing := (onByte_collecting_etx hroom).symm.trans hnext
        exact .inr ⟨payload, .inr (Sum.inl.inj hclosing).symm⟩
      · have hcollecting := (onByte_collecting hbyte hroom).symm.trans hnext
        exact .inr ⟨payload ++ [byte], .inl (Sum.inl.inj hcollecting).symm⟩
    · rw [onByte_collecting_full byte (Nat.not_lt.mp hroom)] at hnext
      exact absurd hnext Sum.inr_ne_inl
  · obtain ⟨result, hresult⟩ := onByte_closing payload byte
    rw [hresult] at hnext
    exact absurd hnext Sum.inr_ne_inl

/-- A frame that is returned stands between an `STX` and an `ETX`. -/
theorem Receiver.WellFormed.frame {receiver : Receiver} {byte : UInt8} {frame : List UInt8}
    (hreceiver : receiver.WellFormed) (hframe : receiver.onByte byte = .inr ⟨.recvAck, frame⟩) :
    ∃ payload, frame = stx :: payload ++ [etx] := by
  rcases hreceiver with rfl | ⟨payload, rfl | rfl⟩
  · have hidle : ∃ next, Receiver.onByte {} byte = .inl next := by
      by_cases hbyte : byte = stx
      · exact ⟨_, by rw [hbyte]; rfl⟩
      · exact ⟨{}, by simp [Receiver.onByte, hbyte]⟩
    obtain ⟨next, hnext⟩ := hidle
    rw [hnext] at hframe
    exact absurd hframe Sum.inl_ne_inr
  · by_cases hroom : payload.length + 1 < rxFrameMaxSize
    · by_cases hbyte : byte = etx
      · rw [hbyte, onByte_collecting_etx hroom] at hframe
        exact absurd hframe Sum.inl_ne_inr
      · rw [onByte_collecting hbyte hroom] at hframe
        exact absurd hframe Sum.inl_ne_inr
    · rw [onByte_collecting_full byte (Nat.not_lt.mp hroom)] at hframe
      cases hframe
  · obtain ⟨result, hresult⟩ := onByte_closing payload byte
    rw [hresult] at hframe
    exact ⟨payload, (congrArg ResponseReadResult.frame (Sum.inr.inj hframe)).symm⟩

/-- Nothing is being read at the end of a command. -/
theorem wellFormed_finish (r : Reader) (cmd : CmdId) (result : RetCode) :
    (Loop.finish r cmd result).WellFormed := by
  unfold Loop.finish
  intro _ _ htask
  split_ifs at htask

theorem wellFormed_onWritten (r : Reader) (cmd : CmdId) (success : Bool) {next : Task}
    (hnext : ∀ cmd receiver, next = .receiving cmd receiver → receiver.WellFormed) :
    (Loop.onWritten r cmd success next).WellFormed := by
  unfold Loop.onWritten
  split_ifs
  · exact wellFormed_finish r cmd _
  · exact wellFormed_finish r cmd _
  · exact hnext

theorem wellFormed_onAckRead (r : Reader) (cmd : CmdId) (read : Read) :
    (Loop.onAckRead r cmd read).WellFormed := by
  cases read with
  | byte byte =>
      unfold Loop.onAckRead
      dsimp only
      split_ifs
      · exact wellFormed_finish r cmd _
      · exact fun _ _ htask => absurd htask (by simp)
      · exact wellFormed_finish r cmd _
      · exact fun _ _ htask => absurd htask (by simp)
  | timedOut => exact wellFormed_finish r cmd _
  | failed => exact wellFormed_finish r cmd _

theorem wellFormed_onResponseRead (r : Reader) (cmd : CmdId) {receiver : Receiver}
    (hreceiver : receiver.WellFormed) (yyyymm : String) (read : Read) :
    (Loop.onResponseRead r cmd receiver yyyymm read).WellFormed := by
  cases read with
  | byte byte =>
      unfold Loop.onResponseRead
      dsimp only
      split
      · next next hnext =>
          intro _ _ htask
          cases htask
          exact hreceiver.onByte hnext
      · exact wellFormed_finish _ cmd _
      · exact wellFormed_finish _ cmd _
  | timedOut => exact wellFormed_finish r cmd _
  | failed => exact wellFormed_finish r cmd _

theorem Loop.WellFormed.step {s : Loop} (hs : s.WellFormed) (input : Input) :
    (s.step input).WellFormed := by
  cases input with
  | enable enable => exact hs
  | post cmd => exact hs
  | startGetStatus => exact hs
  | stop => exact hs
  | wake =>
      unfold Loop.step
      dsimp only
      split
      · split
        · exact fun _ _ htask => absurd htask (by simp)
        · split
          · exact hs
          · exact fun _ _ htask => absurd htask (by simp)
      · exact hs
  | written success =>
      unfold Loop.step
      dsimp only
      split
      · exact wellFormed_onWritten _ _ _ fun _ _ htask => absurd htask (by simp)
      · refine wellFormed_onWritten _ _ _ fun _ _ htask => .inl ?_
        exact (Task.receiving.inj htask).2.symm
      · exact hs
  | read read yyyymm sentFor =>
      unfold Loop.step
      dsimp only
      split
      · exact wellFormed_onAckRead _ _ read
      · next cmd receiver htask => exact wellFormed_onResponseRead _ cmd (hs _ _ htask) _ read
      · exact hs

theorem Loop.WellFormed.run {s : Loop} (hs : s.WellFormed) (inputs : List Input) :
    (s.run inputs).WellFormed := by
  induction inputs generalizing s with
  | nil => exact hs
  | cons input inputs ih => exact ih (hs.step input)

/-- A frame handed to the handler is one around its payload. -/
theorem Loop.WellFormed.handed {s : Loop} (hs : s.WellFormed) {input : Input} {h : Handed}
    (hhanded : s.handed input = some h) : h.frame = stx :: h.payload ++ [etx] := by
  unfold Loop.handed at hhanded
  split at hhanded
  · split at hhanded
    · next cmd receiver htask =>
        split at hhanded
        · next frame hframe =>
            obtain ⟨payload, rfl⟩ := (hs _ _ htask).frame hframe
            obtain rfl := Option.some_inj.mp hhanded
            have hmiddle : (stx :: payload ++ [etx]).tail.dropLast = payload :=
              List.dropLast_concat
            rw [Handed.payload, hmiddle]
        · cases hhanded
    · cases hhanded
  · cases hhanded

/-! ## Which answers belong -/

/-- A frame is handed to the handler in a run from the start, with the reader it finds. -/
def HandedIn (inputs : List Input) (r : Reader) (h : Handed) : Prop :=
  ∃ front input back, inputs = front ++ input :: back ∧ r = (Loop.run {} front).reader ∧
    (Loop.run {} front).handed input = some h

/-- Frames that do not belong to the command are rejected and change nothing. -/
def FramesBelong (inputs : List Input) : Prop :=
  ∀ r h, HandedIn inputs r h → ¬ h.Belongs → h.Rejected r

/-- A frame for which the handler has a branch, and which is the answer to another command. -/
def Handed.Stray (h : Handed) : Prop := Served h.cmd h.payload ∧ ¬ h.Belongs

theorem rejected_iff {inputs : List Input} {h : Handed} (hin : HandedIn inputs r h) :
    h.Rejected r ↔ ¬ Served h.cmd h.payload := by
  obtain ⟨front, input, -, -, -, hhanded⟩ := hin
  have hstart : Loop.WellFormed {} := fun _ _ htask => absurd htask (by simp)
  have hframe := (hstart.run front).handed hhanded
  have hdecides := decides_handleCommandResponse r h.cmd h.yyyymm h.payload
  rw [← hframe] at hdecides
  rcases hdecides with ⟨hserved, hack⟩ | ⟨hserved, hreject, hsame⟩
  · exact iff_of_false (fun hrejected => hrejected.1 hack) (not_not.mpr hserved)
  · exact iff_of_true ⟨hreject, hsame⟩ hserved

/-- A command is written, acknowledged and its `ENQ` written. -/
def asked : List Input :=
  [.wake, .written true, .read (.byte ack) "202609" none, .written true]

/-- The frame of an answer, byte by byte. -/
def answer (payload : List UInt8) (sentFor : CmdId) : List Input :=
  (frameOf payload).map fun byte => .read (.byte byte) "202609" (some sentFor)

/-- `CARD_ON_IC` gets no `ACK` in time.  The late `ACK` is taken for that of `EJECT_TO_FRONT`, and
so is the answer. -/
def lateCardOnIc : List Input :=
  [.post .cardOnIcCmd, .post .ejectToFrontCmd, .wake, .written true,
    .read .timedOut "202609" none] ++ asked ++ answer [0x00, 0x02, 0x32, 0x2F] .cardOnIcCmd

/-- The answer to `SELECT_FILE1` is late and taken for that to `SELECT_FILE2`. -/
def lateSelectFile1 : List Input :=
  [.post .selectFile1Cmd, .post .selectFile2Cmd] ++ asked ++ [.read .timedOut "202609" none] ++
    asked ++ answer [0x00, 0x04, 0x37, 0x31, 0x59, 0x90] .selectFile1Cmd

/-- The frame that the last byte of a run hands to the handler. -/
theorem handedIn_last {inputs : List Input} {h : Handed}
    (hhanded : inputs.getLast?.bind (Loop.run {} inputs.dropLast).handed = some h) :
    HandedIn inputs (Loop.run {} inputs.dropLast).reader h := by
  obtain ⟨input, hlast, hhanded⟩ := Option.bind_eq_some_iff.mp hhanded
  exact ⟨inputs.dropLast, input, [], (List.dropLast_append_getLast? input hlast).symm, rfl,
    hhanded⟩

end LinuxPBS.Ksm

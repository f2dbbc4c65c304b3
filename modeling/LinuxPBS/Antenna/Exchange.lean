import LinuxPBS.Antenna.Confirm
import LinuxPBS.Library.Machine

/-!
# Commands and their answers

`antennaCmdAsync` runs one exchange at a time: it sends a frame up to four times and
each time waits for one complete response, which `antennaHandleCmdResponse` turns into
a return code.  A command and its answer are matched by nothing but time: the return
code depends on the class of the frame alone, the `switch` over the command only picks
the words for the log, and the sequence number of the answer is not looked at.

Every received byte therefore carries, beside its value, the command whose answer it
belongs to, which the module cannot see.  A run is any interleaving of commands, ends
of writes, reads and time-outs:

```text
idle --command--> sending --sent--> reading --received--> idle
                     ^                 |
                     +---readFailed----+       at most four times
```

`answersBelong_iff` says when every success has been reported for an answer to that
command and every IU number read from a whole force-get-IU answer: exactly if no
frame of an acknowledging class that answers another command is completed in an
exchange, and no numeric IU answer is cut short.

The initialisation and the read loop, which only choose the commands, the logger and
the counting of the IU numbers (`Confirm`) are left out.
-/

namespace LinuxPBS.Antenna

open Machine

/-! ## The commands -/

/-- `AntCmdID` -/
inductive AntCmdID
  | noneCmd
  | manualCmd
  | forceGetIuNoCmd
  | useOfAntennaCmd
  | noUseOfAntennaCmd
  | setAntennaTimeCmd
  | machineCheckCmd
  | setAntennaDataCmd
  | getAntennaDataCmd
  | reqIoStatusCmd
  | setOutputCmd
  deriving DecidableEq, Repr

/-- `AntCmdRetCode` -/
inductive AntCmdRetCode
  | antSendFailed
  | antRecvCmdNotFound
  | antRecvNoResp
  | antRecvAck
  | antRecvNak
  | antRecvCrcErr
  deriving DecidableEq, Repr

/-- The fields of `std::tm` that `loadSetAntennaTime` reads. -/
structure Tm where
  tmMday : ℕ
  tmMon : ℕ
  tmYear : ℕ
  tmHour : ℕ
  tmMin : ℕ
  tmSec : ℕ

/-- The bytes every payload begins with: addresses, category, command, sequence
number, RFU and length. -/
def loadHeader (destID sourceID category command seqNo len : UInt8) : List UInt8 :=
  [destID, sourceID, category, command, seqNo, 0x00, len]

/-- `loadSetAntennaData` -/
def loadSetAntennaData (destID sourceID category command seqNo antennaID : UInt8) (placeID : ℕ)
    (parkingNo antennaMode enqTimer : UInt8) (doubleCommTimer cmdWaitTimer : ℕ) : List UInt8 :=
  loadHeader destID sourceID category command seqNo 0x0B ++
    [antennaID, UInt8.ofNat placeID, UInt8.ofNat (placeID / 256), parkingNo, antennaMode, 0x00,
      enqTimer, UInt8.ofNat doubleCommTimer, UInt8.ofNat (doubleCommTimer / 256),
      UInt8.ofNat cmdWaitTimer, UInt8.ofNat (cmdWaitTimer / 256)]

/-- `loadSetAntennaTime` -/
def loadSetAntennaTime (destID sourceID category command seqNo : UInt8) (localTime : Tm) :
    List UInt8 :=
  loadHeader destID sourceID category command seqNo 0x08 ++
    [UInt8.ofNat localTime.tmMday, UInt8.ofNat (localTime.tmMon + 1),
      UInt8.ofNat ((localTime.tmYear + 1900) % 256), UInt8.ofNat ((localTime.tmYear + 1900) / 256),
      0x00, UInt8.ofNat localTime.tmSec, UInt8.ofNat localTime.tmMin, UInt8.ofNat localTime.tmHour]

/-- `loadSetOutput`; its length byte is zero although two bytes follow. -/
def loadSetOutput (destID sourceID category command seqNo maskIo statusOfIo : UInt8) :
    List UInt8 :=
  loadHeader destID sourceID category command seqNo 0x00 ++ [maskIo, statusOfIo]

/-- `loadGetAntennaData` -/
def loadGetAntennaData (destID sourceID category command seqNo : UInt8) : List UInt8 :=
  loadHeader destID sourceID category command seqNo 0x00

/-- `loadNoUseOfAntenna` -/
def loadNoUseOfAntenna (destID sourceID category command seqNo : UInt8) : List UInt8 :=
  loadHeader destID sourceID category command seqNo 0x00

/-- `loadUseOfAntenna` -/
def loadUseOfAntenna (destID sourceID category command seqNo : UInt8) : List UInt8 :=
  loadHeader destID sourceID category command seqNo 0x00

/-- `loadMachineCheck` -/
def loadMachineCheck (destID sourceID category command seqNo : UInt8) : List UInt8 :=
  loadHeader destID sourceID category command seqNo 0x00

/-- `loadReqIOStatus` -/
def loadReqIOStatus (destID sourceID category command seqNo : UInt8) : List UInt8 :=
  loadHeader destID sourceID category command seqNo 0x00

/-- `loadForceGetUINo` -/
def loadForceGetUINo (destID sourceID category command seqNo : UInt8) : List UInt8 :=
  loadHeader destID sourceID category command seqNo 0x00

/-- The payload of a command, or nothing for `default`. -/
def AntCmdID.dataBuffer (antennaID seqNo : UInt8) (localTime : Tm) : AntCmdID → Option (List UInt8)
  | .manualCmd => some []
  | .setAntennaDataCmd =>
      some (loadSetAntennaData (0xB0 + antennaID) 0x00 0x32 0x40 seqNo antennaID 0x0001 0x01 0x01
        0xE1 0x012C 0x003C)
  | .getAntennaDataCmd => some (loadGetAntennaData (0xB0 + antennaID) 0x00 0x32 0x41 seqNo)
  | .noUseOfAntennaCmd => some (loadNoUseOfAntenna (0xB0 + antennaID) 0x00 0x32 0x32 seqNo)
  | .useOfAntennaCmd => some (loadUseOfAntenna (0xB0 + antennaID) 0x00 0x32 0x33 seqNo)
  | .setAntennaTimeCmd =>
      some (loadSetAntennaTime (0xB0 + antennaID) 0x00 0x32 0x30 seqNo localTime)
  | .machineCheckCmd => some (loadMachineCheck (0xB0 + antennaID) 0x00 0x31 0x33 seqNo)
  | .reqIoStatusCmd => some (loadReqIOStatus (0xB0 + antennaID) 0x00 0x31 0x34 seqNo)
  | .setOutputCmd => some (loadSetOutput (0xB0 + antennaID) 0x00 0x32 0x31 seqNo 0x01 0x01)
  | .forceGetIuNoCmd => some (loadForceGetUINo (0xB0 + antennaID) 0x00 0x3F 0x32 seqNo)
  | .noneCmd => none

/-- No payload is too long for the transmit buffer. -/
theorem AntCmdID.length_dataBuffer {antennaID seqNo : UInt8} {localTime : Tm} {cmd : AntCmdID}
    {data : List UInt8} (hdata : cmd.dataBuffer antennaID seqNo localTime = some data) :
    data.length ≤ 18 := by
  cases cmd <;> cases hdata <;> simp [loadSetAntennaData, loadSetAntennaTime, loadSetOutput,
    loadGetAntennaData, loadNoUseOfAntenna, loadUseOfAntenna, loadMachineCheck, loadReqIOStatus,
    loadForceGetUINo, loadHeader]

theorem putByte_of_lt {txBuff : List UInt8} (hlength : txBuff.length < txBufSize) (value : UInt8) :
    putByte txBuff value = some (txBuff ++ [value]) := by
  rw [putByte, if_neg (Nat.not_le.mpr hlength)]

/-- The data fit if they do with every byte doubled. -/
theorem exists_putData {txBuff dataBuff : List UInt8}
    (hlength : txBuff.length + 2 * dataBuff.length ≤ txBufSize) :
    ∃ body, putData txBuff dataBuff = some body ∧
      body.length ≤ txBuff.length + 2 * dataBuff.length := by
  induction dataBuff generalizing txBuff with
  | nil => exact ⟨txBuff, rfl, Nat.le_refl _⟩
  | cons value rest ih =>
      rw [List.length_cons] at hlength
      by_cases hdle : value = dle
      · obtain ⟨body, hbody, hle⟩ := @ih (txBuff ++ [dle] ++ [value]) (by simp; omega)
        refine ⟨body, ?_, by simp at hle; simp; omega⟩
        simp only [putData, hdle, if_true, Option.bind_eq_bind]
        rw [putByte_of_lt (by omega), Option.bind_some, putByte_of_lt (by simp; omega),
          Option.bind_some]
        rwa [hdle] at hbody
      · obtain ⟨body, hbody, hle⟩ := @ih (txBuff ++ [value]) (by simp; omega)
        refine ⟨body, ?_, by simp at hle; simp; omega⟩
        simp only [putData, hdle, if_false, Option.bind_eq_bind, Option.bind_some]
        rw [putByte_of_lt (by omega)]
        exact hbody

/-- Every payload becomes a frame: a write is never refused by `putByte`. -/
theorem AntCmdID.antennaCmdSend_dataBuffer {antennaID seqNo : UInt8} {localTime : Tm}
    {cmd : AntCmdID} {data : List UInt8}
    (hdata : cmd.dataBuffer antennaID seqNo localTime = some data) :
    (antennaCmdSend data).isSome := by
  have hlength := length_dataBuffer hdata
  obtain ⟨body, hbody, hle⟩ := @exists_putData [dle, stx] data
    (by simp [txBufSize]; omega)
  have hroom : body.length + 4 ≤ txBufSize := by
    simp [txBufSize] at hle ⊢
    omega
  simp only [antennaCmdSend, Option.bind_eq_bind]
  rw [putByte_of_lt (by decide), Option.bind_some, putByte_of_lt (by decide), Option.bind_some]
  simp only [List.nil_append, List.cons_append, hbody, Option.bind_some]
  rw [putByte_of_lt (by omega), Option.bind_some, putByte_of_lt (by simp; omega),
    Option.bind_some, putByte_of_lt (by simp; omega), Option.bind_some,
    putByte_of_lt (by simp; omega)]
  rfl

/-! ## The response -/

/-- A byte on the line, and the command whose answer it is part of. -/
structure WireByte where
  byte : UInt8
  answers : AntCmdID
  deriving DecidableEq

/-- `responseIsComplete`: the bytes of one read, up to the end of a valid frame. -/
def responseIsComplete : Receiver → List WireByte → Receiver × Option AntCmdID
  | receiver, [] => (receiver, none)
  | receiver, c :: rest =>
      let received := receiver.receiveRxDataByte c.byte
      if received.2 ≠ 0 then (received.1, some c.answers)
      else responseIsComplete received.1 rest

/-- `antennaHandleCmdResponse`: the return code; `cmd` is only written to the log. -/
def Receiver.retCode (receiver : Receiver) (_cmd : AntCmdID) : AntCmdRetCode :=
  if receiver.rxNum < 8 then .antRecvNoResp
  else if receiver.cmdID = "3281" then .antRecvAck
  else if receiver.cmdID = "32c1" then .antRecvAck
  else if receiver.cmdID = "3282" then .antRecvNak
  else if receiver.cmdID = "3283" then .antRecvNak
  else if receiver.cmdID = "3fb2" then
    if isStringNumeric receiver.iuNumberStr then .antRecvAck else .antRecvNak
  else if receiver.cmdID = "3f82" then .antRecvNak
  else if receiver.cmdID = "31b3" then .antRecvAck
  else if receiver.cmdID = "31b4" then .antRecvAck
  else .antRecvNoResp

/-- A frame of a class that acknowledges something. -/
def Receiver.Acknowledges (receiver : Receiver) : Prop :=
  receiver.rxNum ≥ 8 ∧
    (receiver.cmdID ∈ ["3281", "32c1", "31b3", "31b4"] ∨
      receiver.cmdID = "3fb2" ∧ isStringNumeric receiver.iuNumberStr)

instance (receiver : Receiver) : Decidable receiver.Acknowledges := by
  unfold Receiver.Acknowledges
  infer_instance

theorem Receiver.retCode_eq_ack_iff (receiver : Receiver) (cmd : AntCmdID) :
    receiver.retCode cmd = .antRecvAck ↔ receiver.Acknowledges := by
  unfold Receiver.retCode Receiver.Acknowledges
  by_cases hsize : receiver.rxNum < 8
  · have hshort : ¬receiver.rxNum ≥ 8 := by omega
    simp [hsize, hshort]
  · rw [if_neg hsize]
    have hlong : receiver.rxNum ≥ 8 := by omega
    simp only [hlong, true_and, List.mem_cons, List.not_mem_nil, or_false]
    -- one class after the other, as the code compares them
    split_ifs with h₁ h₂ h₃ h₄ h₅ hnum h₆ h₇ h₈ <;> simp_all

/-! ## The module -/

/-- The local variables of `antennaCmdAsync`. -/
structure Exchange where
  cmd : AntCmdID
  dataBuffer : List UInt8
  attempt : ℕ
  deriving DecidableEq

/-- `isCmdExecuting_`, with the place where `antennaCmdAsync` is suspended. -/
inductive Phase
  | idle
  | sending (exchange : Exchange)
  | reading (exchange : Exchange)
  deriving DecidableEq

/-- A complete frame, and the command it answers. -/
structure Response where
  receiver : Receiver
  answers : AntCmdID
  deriving DecidableEq

/-- What a run leaves behind. -/
inductive Note
  | sent (frame : List UInt8)
  /-- the IU number a response returns -/
  | iuTaken (iu : String) (response : Response)
  | antennaFail (errorCode : ℤ)
  /-- `antennaCmdAsync` returns, with the response it has accepted -/
  | returned (cmd : AntCmdID) (retCode : AntCmdRetCode) (accepted : Option Response)
  deriving DecidableEq

/-- The fields of `Antenna` that take part in an exchange. -/
structure Commander where
  antennaId : UInt8
  stopping : Bool := false
  phase : Phase := .idle
  sequenceNo : UInt8 := 0
  receiver : Receiver
  log : List Note := []

/-- What happens on the thread of the antenna, in any order. -/
inductive Input
  /-- `antennaCmdAsync` is called -/
  | command (cmd : AntCmdID) (localTime : Tm) (portOpen : Bool)
  /-- the end of a write -/
  | sent (ok : Bool)
  /-- the bytes of one read -/
  | received (bytes : List WireByte)
  /-- a read is cancelled by the time-out, or fails -/
  | readFailed
  /-- `FnAntennaShutdown`, and the end of its `join` -/
  | shutdown
  | joined

namespace Commander

/-- `co_return` -/
def finish (cmd : AntCmdID) (retCode : AntCmdRetCode) (accepted : Option Response)
    (commander : Commander) : Commander :=
  { commander with phase := .idle, log := .returned cmd retCode accepted :: commander.log }

/-- The top of the loop, up to the write. -/
def beginAttempt (exchange : Exchange) (commander : Commander) : Commander :=
  if commander.stopping then commander.finish exchange.cmd .antRecvNoResp none
  else
    { commander with
      receiver := commander.receiver.clear.resetState
      phase := .sending exchange
      log := ((antennaCmdSend exchange.dataBuffer).map Note.sent).toList ++ commander.log }

/-- The bottom of the loop, and what follows it. -/
def failAttempt (exchange : Exchange) (retCode : AntCmdRetCode) (commander : Commander) : Commander :=
  if commander.stopping then commander.finish exchange.cmd retCode none
  else if exchange.attempt < antennaCmdMaxRetry then
    commander.beginAttempt { exchange with attempt := exchange.attempt + 1 }
  else
    { commander with log := .antennaFail 1 :: commander.log }.finish exchange.cmd retCode none

/-- `++SEQUENCE_NO`, without the zero -/
def nextSequenceNo (sequenceNo : UInt8) : UInt8 :=
  if sequenceNo + 1 = 0 then 1 else sequenceNo + 1

/-- `antennaCmdAsync` up to the loop. -/
def antennaCmd (cmd : AntCmdID) (localTime : Tm) (portOpen : Bool) (commander : Commander) :
    Commander :=
  if commander.stopping then
    { commander with log := .returned cmd .antRecvNoResp none :: commander.log }
  else if commander.phase ≠ .idle then
    { commander with log := .returned cmd .antSendFailed none :: commander.log }
  else if !portOpen then commander.finish cmd .antRecvNoResp none
  else
    let commander := { commander with sequenceNo := nextSequenceNo commander.sequenceNo }
    match cmd.dataBuffer commander.antennaId commander.sequenceNo localTime with
    | none => commander.finish cmd .antRecvCmdNotFound none
    | some dataBuffer => commander.beginAttempt ⟨cmd, dataBuffer, 0⟩

/-- `antennaHandleCmdResponse`, and the return of its code. -/
def antennaHandleCmdResponse (cmd : AntCmdID) (response : Response) (commander : Commander) :
    Commander :=
  let taken := response.receiver.reading.map fun iu => Note.iuTaken iu response
  { commander with log := taken.toList ++ commander.log }.finish cmd
    (response.receiver.retCode cmd) (some response)

/-- A step of the module. -/
def step (commander : Commander) : Input → Commander
  | .command cmd localTime portOpen => commander.antennaCmd cmd localTime portOpen
  | .sent ok =>
      match commander.phase with
      | .sending exchange =>
          -- `putByte` can fail as well, then nothing is written
          if ok ∧ (antennaCmdSend exchange.dataBuffer).isSome then
            { commander with phase := .reading exchange }
          else commander.failAttempt exchange .antSendFailed
      | _ => commander
  | .received bytes =>
      match commander.phase with
      | .reading exchange =>
          let read := responseIsComplete commander.receiver bytes
          let commander := { commander with receiver := read.1 }
          match read.2 with
          | some answers => commander.antennaHandleCmdResponse exchange.cmd ⟨read.1, answers⟩
          | none => commander
      | _ => commander
  | .readFailed =>
      match commander.phase with
      | .reading exchange =>
          { commander with receiver := commander.receiver.clear.resetState }.failAttempt exchange
            .antRecvNoResp
      | _ => commander
  | .shutdown => { commander with stopping := true }
  | .joined => if commander.phase = .idle then { commander with stopping := false } else commander

/-- The module after the program start. -/
def initial (antennaId : UInt8) : Commander :=
  { antennaId, receiver := ⟨.ignore, emptyBuff, 0, 0⟩ }

/-! ## Which answers belong -/

/-- An answer to force-get-IU with all the five bytes of the number: they stand in front
of the `ETX`, the last byte of a response. -/
def IsWholeIUAnswer (response : Response) : Prop :=
  response.answers = .forceGetIuNoCmd ∧ 13 ≤ response.receiver.rxNum

/-- A success belongs to an answer to its command, and an IU number to a whole answer to
force-get-IU. -/
def Belongs : Note → Prop
  | .returned cmd retCode accepted =>
      retCode = .antRecvAck → ∃ response, accepted = some response ∧ response.answers = cmd
  | .iuTaken _ response => IsWholeIUAnswer response
  | .sent _ => True
  | .antennaFail _ => True

instance (response : Response) : Decidable (IsWholeIUAnswer response) := by
  unfold IsWholeIUAnswer
  infer_instance

instance decidableBelongs : ∀ note, Decidable (Belongs note)
  | .returned _ retCode none => decidable_of_iff (retCode ≠ .antRecvAck) (by simp [Belongs])
  | .returned cmd retCode (some response) =>
      decidable_of_iff (retCode = .antRecvAck → response.answers = cmd) (by simp [Belongs])
  | .iuTaken _ response => inferInstanceAs (Decidable (IsWholeIUAnswer response))
  | .sent _ => inferInstanceAs (Decidable True)
  | .antennaFail _ => inferInstanceAs (Decidable True)

/-- Every answer taken so far belongs to what it was taken for. -/
def AnswersBelong (commander : Commander) : Prop := ∀ note ∈ commander.log, Belongs note

instance (commander : Commander) : Decidable commander.AnswersBelong := by
  unfold AnswersBelong
  infer_instance

/-- The response an input completes, with the command that is being executed. -/
def completes (commander : Commander) : Input → Option (AntCmdID × Response)
  | .received bytes =>
      match commander.phase with
      | .reading exchange =>
          let read := responseIsComplete commander.receiver bytes
          read.2.map fun answers => (exchange.cmd, ⟨read.1, answers⟩)
      | _ => none
  | _ => none

/-- No acknowledging frame that answers another command is completed, and no numeric IU
answer that is cut short. -/
def Timely (commander : Commander) (input : Input) : Prop :=
  ∀ cmd response, commander.completes input = some (cmd, response) →
    (response.receiver.Acknowledges → response.answers = cmd) ∧
      (response.receiver.reading.isSome → IsWholeIUAnswer response)

variable {commander : Commander}

theorem belongs_of_ne_ack {cmd : AntCmdID} {retCode : AntCmdRetCode} {accepted : Option Response}
    (hcode : retCode ≠ .antRecvAck) : Belongs (.returned cmd retCode accepted) :=
  fun hack => absurd hack hcode

theorem answersBelong_finish {cmd : AntCmdID} {retCode : AntCmdRetCode}
    {accepted : Option Response} :
    (commander.finish cmd retCode accepted).AnswersBelong ↔
      Belongs (.returned cmd retCode accepted) ∧ commander.AnswersBelong :=
  List.forall_mem_cons

/-- Sending a frame takes no answer. -/
theorem answersBelong_beginAttempt {exchange : Exchange} :
    (commander.beginAttempt exchange).AnswersBelong ↔ commander.AnswersBelong := by
  unfold beginAttempt
  split_ifs
  · rw [answersBelong_finish]
    exact and_iff_right (belongs_of_ne_ack (by decide))
  · unfold AnswersBelong
    cases antennaCmdSend exchange.dataBuffer with
    | none => simp
    | some frame => simp [Belongs]

theorem answersBelong_failAttempt {exchange : Exchange} {retCode : AntCmdRetCode}
    (hcode : retCode ≠ .antRecvAck) :
    (commander.failAttempt exchange retCode).AnswersBelong ↔ commander.AnswersBelong := by
  unfold failAttempt
  split_ifs
  · rw [answersBelong_finish]
    exact and_iff_right (belongs_of_ne_ack hcode)
  · exact answersBelong_beginAttempt
  · rw [answersBelong_finish, and_iff_right (belongs_of_ne_ack hcode)]
    simp [AnswersBelong, Belongs]

theorem answersBelong_antennaCmd {cmd : AntCmdID} {localTime : Tm} {portOpen : Bool} :
    (commander.antennaCmd cmd localTime portOpen).AnswersBelong ↔ commander.AnswersBelong := by
  unfold antennaCmd
  split_ifs
  · simp [AnswersBelong, Belongs]
  · simp [AnswersBelong, Belongs]
  · rw [answersBelong_finish]
    exact and_iff_right (belongs_of_ne_ack (by decide))
  · dsimp only
    split
    · rw [answersBelong_finish]
      exact and_iff_right (belongs_of_ne_ack (by decide))
    · exact answersBelong_beginAttempt

/-- A complete response is taken for what is being executed. -/
theorem answersBelong_antennaHandleCmdResponse {cmd : AntCmdID} {response : Response} :
    (commander.antennaHandleCmdResponse cmd response).AnswersBelong ↔
      commander.AnswersBelong ∧ (response.receiver.Acknowledges → response.answers = cmd) ∧
        (response.receiver.reading.isSome → IsWholeIUAnswer response) := by
  have hreturned : Belongs (.returned cmd (response.receiver.retCode cmd) (some response)) ↔
      (response.receiver.Acknowledges → response.answers = cmd) := by
    simp [Belongs, Receiver.retCode_eq_ack_iff]
  unfold antennaHandleCmdResponse
  rw [answersBelong_finish, hreturned]
  unfold AnswersBelong
  cases response.receiver.reading with
  | none => simp [and_comm]
  | some iu =>
      simp only [Option.map_some, Option.toList_some, List.singleton_append,
        List.forall_mem_cons, Option.isSome_some, forall_const, Belongs]
      tauto

/-- One step takes answers that belong exactly if it is timely. -/
theorem answersBelong_step (commander : Commander) (input : Input) :
    (commander.step input).AnswersBelong ↔
      commander.AnswersBelong ∧ commander.Timely input := by
  have hnever (hcompletes : commander.completes input = none) : commander.Timely input := by
    intro cmd response hsome
    rw [hcompletes] at hsome
    cases hsome
  cases input with
  | command cmd localTime portOpen =>
      rw [and_iff_left (hnever rfl)]
      exact answersBelong_antennaCmd
  | sent ok =>
      rw [and_iff_left (hnever rfl)]
      simp only [step]
      split
      · split_ifs
        · exact Iff.rfl
        · exact answersBelong_failAttempt (by decide)
      · exact Iff.rfl
  | received bytes =>
      cases hphase : commander.phase with
      | idle =>
          rw [and_iff_left (hnever (by simp [completes, hphase]))]
          simp [step, hphase]
      | sending exchange =>
          rw [and_iff_left (hnever (by simp [completes, hphase]))]
          simp [step, hphase]
      | reading exchange =>
          simp only [step, hphase, Timely, completes]
          cases hread : (responseIsComplete commander.receiver bytes).2 with
          | none =>
              simp only [Option.map_none, reduceCtorEq, false_implies, implies_true, and_true]
              exact Iff.rfl
          | some answers =>
              rw [answersBelong_antennaHandleCmdResponse]
              refine and_congr Iff.rfl ⟨?_, fun htimely => htimely _ _ rfl⟩
              rintro hbelongs cmd response ⟨⟩
              exact hbelongs
  | readFailed =>
      rw [and_iff_left (hnever rfl)]
      simp only [step]
      split
      · exact answersBelong_failAttempt (by decide)
      · exact Iff.rfl
  | shutdown =>
      rw [and_iff_left (hnever rfl)]
      exact Iff.rfl
  | joined =>
      rw [and_iff_left (hnever rfl)]
      simp only [step]
      split_ifs
      · exact Iff.rfl
      · exact Iff.rfl

/-- Every answer taken in a run belongs to what it was taken for exactly if every step of
the run is timely. -/
theorem answersBelong_iff (antennaId : UInt8) (inputs : List Input) :
    (run step (initial antennaId) inputs).AnswersBelong ↔
      Meets step Timely (initial antennaId) inputs := by
  rw [run_iff answersBelong_step]
  exact and_iff_right (by simp [AnswersBelong, initial])

/-! ## A late answer -/

/-- The bytes of an answer with a class and the given data. -/
def answerBytes (answers : AntCmdID) (category command : UInt8) (data : List UInt8) :
    List WireByte :=
  ((antennaCmdSend ([0x00, 0xB1, category, command, 0x01, 0x00, UInt8.ofNat data.length] ++
    data)).getD []).map fun byte => ⟨byte, answers⟩

/-- The first attempt of `SET_ANTENNA_DATA_CMD` is answered late, in the read of the second;
the answer to the second is taken for one to the `NO_USE_OF_ANTENNA_CMD` that follows.  An
answer to force-get-IU without a number is taken for the IU `0000000003`. -/
def lateAnswers : List Input :=
  [.command .setAntennaDataCmd ⟨1, 0, 125, 8, 0, 0⟩ true, .sent true, .readFailed, .sent true,
    .received (answerBytes .setAntennaDataCmd 0x32 0x81 []),
    .command .noUseOfAntennaCmd ⟨1, 0, 125, 8, 0, 2⟩ true, .sent true,
    .received (answerBytes .setAntennaDataCmd 0x32 0x81 [])]

/-- An answer to force-get-IU that ends behind its length byte. -/
def shortAnswer : List Input :=
  [.command .forceGetIuNoCmd ⟨1, 0, 125, 8, 0, 0⟩ true, .sent true,
    .received (answerBytes .forceGetIuNoCmd 0x3F 0xB2 [])]

/-- Neither run takes only what belongs. -/
theorem not_answersBelong :
    ¬(run step (initial 1) lateAnswers).AnswersBelong ∧
      (run step (initial 1) lateAnswers).log.head? = some (.returned .noUseOfAntennaCmd .antRecvAck
        (some ⟨(responseIsComplete (initial 1).receiver
          (answerBytes .setAntennaDataCmd 0x32 0x81 [])).1, .setAntennaDataCmd⟩)) ∧
      ¬(run step (initial 1) shortAnswer).AnswersBelong := by
  decide +kernel

end Commander

end LinuxPBS.Antenna

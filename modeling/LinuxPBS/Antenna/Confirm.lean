import Mathlib.Data.Int.Notation
import Mathlib.Data.List.Basic
import LinuxPBS.Antenna.Frame

/-!
# Confirming an IU number

While a vehicle stands on loop A, `readIULoopAsync` sends one force-get-IU command
after the other.  `antennaHandleCmdResponse` counts how often the same numeric IU
number has come back, in `successRecvIUCount_` and `IUNumberPrev_`; when the count
reaches `antennaIUCmdMinOKtimes_` it raises `successRecvIUFlag_`, and the loop
enqueues `Evt_AntennaIUCome` and ends.

The count is only touched by a response with a numeric number.  A command without
an answer, a NAK and a number with other digits leave it as it is, and so do
`FnAntennaStopRead` and the start of the next loop: what is counted are the readings
since the last `Evt_AntennaIUCome`, not the exchanges.  `iuCome_iff` says that the
event comes exactly with the last of `antennaIUCmdMinOKtimes_` equal readings, if
that setting is at least two.

The commands of `antennaInitAsync`, which is over when reading starts, and the
shutdown of the module are left out.
-/

namespace LinuxPBS.Antenna

/-! ## The texts of a response -/

/-- Two hexadecimal digits, for an unsigned `char`. -/
def hexByte (byte : UInt8) : List Char :=
  [Nat.digitChar (byte.toNat / 16), Nat.digitChar (byte.toNat % 16)]

/-- `FnGetVectorCharToHexString` and `FnGetUCharArrayToHexString` -/
def vectorCharToHexString (data : List UInt8) : String := String.ofList (data.flatMap hexByte)

/-- `FnIsStringNumeric` -/
def isStringNumeric (text : String) : Bool := text.toList.all Char.isDigit

namespace Receiver

variable (receiver : Receiver)

/-- `cmdID`: the category and the command number of a response. -/
def cmdID : String := vectorCharToHexString ((receiver.rxBuff.toList.drop 2).take 2)

/-- `IUNumberStr`: the five bytes from the eighth on, the last one first. -/
def iuNumberStr : String := vectorCharToHexString ((receiver.rxBuff.toList.drop 7).take 5).reverse

/-- The IU number a response returns, if it has one and it is numeric. -/
def reading : Option String :=
  if receiver.rxNum ≥ 8 ∧ receiver.cmdID = "3fb2" ∧ isStringNumeric receiver.iuNumberStr then
    some receiver.iuNumberStr
  else none

end Receiver

/-! ## The loop -/

/-- Where `readIULoopAsync` is suspended. -/
inductive LoopState
  | stopped
  /-- at the timer -/
  | waiting
  /-- in the command -/
  | executing
  deriving DecidableEq, Repr

/-- The fields of `Antenna` that take part in reading an IU. -/
structure IUReader where
  antennaIUCmdMinOKtimes : ℤ
  continueReadFlag : Bool := false
  /-- `iuLoopRunning_`, with the place in the loop -/
  iuLoop : LoopState := .stopped
  antIUCmdSendCount : ℕ := 0
  successRecvIUCount : ℕ := 0
  successRecvIUFlag : Bool := false
  iuNumber : String := ""
  iuNumberPrev : String := ""
  deriving DecidableEq

/-- How a command ends. -/
inductive Answer
  /-- the module stops or the port is closed -/
  | notSent
  /-- what each attempt has received: a complete frame or nothing -/
  | attempts (received : List (Option Receiver))

/-- `antennaCmdMaxRetry_` -/
def antennaCmdMaxRetry : ℕ := 3

/-- The response `antennaCmdAsync` handles: that of the first attempt with one. -/
def Answer.response : Answer → Option Receiver
  | .notSent => none
  | .attempts received => (received.take (antennaCmdMaxRetry + 1)).findSome? id

/-- The numeric IU number an exchange returns. -/
def Answer.reading (answer : Answer) : Option String := answer.response.bind Receiver.reading

/-- What happens on the thread of the antenna, in any order. -/
inductive Step
  /-- `FnAntennaSendReadIUCmd` -/
  | sendReadIUCmd
  /-- the handler it posts -/
  | startLoop (portOpen : Bool)
  /-- `FnAntennaStopRead` -/
  | stopRead
  /-- the timer of the loop; nothing is sent while another command runs -/
  | tick (send : Bool)
  /-- the end of a force-get-IU command -/
  | answer (answer : Answer)

/-- What a run leaves behind: the exchanges and the events that are enqueued. -/
inductive Entry
  /-- a force-get-IU command has ended, with the number it has returned -/
  | exchange (reading : Option String)
  | antennaIUCome (iu : String)
  | antennaFail (errorCode : ℤ)
  deriving DecidableEq

namespace IUReader

/-- `antennaHandleCmdResponse`, a numeric IU number. -/
def countIU (iuNumberStr : String) (reader : IUReader) : IUReader :=
  if reader.iuNumberPrev ≠ iuNumberStr then
    { reader with iuNumberPrev := iuNumberStr, successRecvIUCount := 1 }
  else if ((reader.successRecvIUCount + 1 : ℕ) : ℤ) = reader.antennaIUCmdMinOKtimes then
    { reader with
      successRecvIUFlag := true
      successRecvIUCount := 0
      iuNumber := reader.iuNumberPrev
      iuNumberPrev := "" }
  else { reader with successRecvIUCount := reader.successRecvIUCount + 1 }

/-- `antennaHandleCmdResponse`; its return code is not used. -/
def antennaHandleCmdResponse (receiver : Receiver) (reader : IUReader) : IUReader :=
  match receiver.reading with
  | some iuNumberStr => reader.countIU iuNumberStr
  | none => reader

/-- `antennaCmdAsync(FORCE_GET_IU_NO_CMD)` -/
def antennaCmd (answer : Answer) (reader : IUReader) : IUReader × List Entry :=
  match answer.response with
  | some receiver => (reader.antennaHandleCmdResponse receiver, [.exchange answer.reading])
  | none =>
      match answer with
      | .notSent => (reader, [.exchange none])
      | .attempts _ => (reader, [.antennaFail 1, .exchange none])

/-- The `while` of the loop. -/
def loopAgain (reader : IUReader) : IUReader :=
  { reader with iuLoop := if reader.continueReadFlag then .waiting else .stopped }

/-- `readIULoopAsync` behind the command. -/
def finishExchange (reader : IUReader) : IUReader × List Entry :=
  let count := reader.antIUCmdSendCount + 1
  if reader.successRecvIUFlag then
    ({ reader with
      antIUCmdSendCount := count
      continueReadFlag := false
      successRecvIUFlag := false
      iuLoop := .stopped }, [.antennaIUCome reader.iuNumber])
  else if count ≥ 20 then
    (loopAgain { reader with antIUCmdSendCount := 0 }, [.antennaFail 2])
  else (loopAgain { reader with antIUCmdSendCount := count }, [])

/-- One step, and what it leaves behind, the newest first. -/
def step (reader : IUReader) : Step → IUReader × List Entry
  | .sendReadIUCmd => ({ reader with continueReadFlag := true }, [])
  | .startLoop portOpen =>
      if !portOpen then ({ reader with continueReadFlag := false }, [])
      else if reader.iuLoop ≠ .stopped then (reader, [])
      else (loopAgain { reader with antIUCmdSendCount := 0 }, [])
  | .stopRead => ({ reader with continueReadFlag := false }, [])
  | .tick send =>
      if reader.iuLoop ≠ .waiting then (reader, [])
      else if !reader.continueReadFlag then ({ reader with iuLoop := .stopped }, [])
      else if send then ({ reader with iuLoop := .executing }, [])
      else (reader, [])
  | .answer answer =>
      if reader.iuLoop ≠ .executing then (reader, [])
      else
        let commanded := reader.antennaCmd answer
        let finished := commanded.1.finishExchange
        (finished.1, finished.2 ++ commanded.2)

/-- A run, with everything it leaves behind, the newest first. -/
def run (reader : IUReader) : List Step → IUReader × List Entry
  | [] => (reader, [])
  | next :: rest =>
      let stepped := reader.step next
      let final := run stepped.1 rest
      (final.1, final.2 ++ stepped.2)

/-- The module after the program start. -/
def initial (antennaIUCmdMinOKtimes : ℤ) : IUReader := { antennaIUCmdMinOKtimes }

/-! ## What is counted -/

/-- The numeric IU numbers returned since the last `Evt_AntennaIUCome`, the newest first. -/
def readings : List Entry → List String
  | [] => []
  | .antennaIUCome _ :: _ => []
  | .exchange (some iu) :: rest => iu :: readings rest
  | .exchange none :: rest => readings rest
  | .antennaFail _ :: rest => readings rest

/-- A list that begins with as many copies of `a` as it can. -/
theorem take_replicate_append {α : Type*} {a : α} {rest : List α} (hrest : rest.head? ≠ some a)
    (n count : ℕ) :
    (List.replicate count a ++ rest).take n = List.replicate n a ↔ n ≤ count := by
  induction count generalizing n with
  | zero =>
      cases n with
      | zero => simp
      | succ n =>
          cases rest with
          | nil => simp
          | cons b rest =>
              have hne : b ≠ a := by simpa using hrest
              simp [List.replicate_succ, hne]
  | succ count ih =>
      cases n with
      | zero => simp
      | succ n => simp [List.replicate_succ, ih]

/-- The count is the number of equal readings in front of a different one. -/
structure Counting (N : ℤ) (reader : IUReader) (entries : List Entry) : Prop where
  setting : reader.antennaIUCmdMinOKtimes = N
  flag : reader.successRecvIUFlag = false
  below : (reader.successRecvIUCount : ℤ) < N
  counted : ∃ rest, rest.head? ≠ some reader.iuNumberPrev ∧
    readings entries = List.replicate reader.successRecvIUCount reader.iuNumberPrev ++ rest
  nothing : reader.successRecvIUCount = 0 → readings entries = []

variable {N : ℤ} {reader : IUReader} {entries : List Entry}

theorem counting_initial (hN : 2 ≤ N) : Counting N (initial N) [] where
  setting := rfl
  flag := rfl
  below := by
    show (0 : ℤ) < N
    omega
  counted := ⟨[], by simp, rfl⟩
  nothing _ := rfl

/-- Whatever touches neither the counters nor the readings. -/
theorem Counting.congr (hcounting : Counting N reader entries) {other : IUReader}
    {others : List Entry}
    (hsetting : other.antennaIUCmdMinOKtimes = reader.antennaIUCmdMinOKtimes)
    (hflag : other.successRecvIUFlag = reader.successRecvIUFlag)
    (hcount : other.successRecvIUCount = reader.successRecvIUCount)
    (hprev : other.iuNumberPrev = reader.iuNumberPrev)
    (hreadings : readings others = readings entries) : Counting N other others where
  setting := hsetting.trans hcounting.setting
  flag := hflag.trans hcounting.flag
  below := by
    rw [hcount]
    exact hcounting.below
  counted := by
    rw [hcount, hprev, hreadings]
    exact hcounting.counted
  nothing hzero := by
    rw [hreadings]
    exact hcounting.nothing (hcount ▸ hzero)

/-- A reading is the last one that is needed. -/
def Confirms (N : ℤ) (iu : String) (entries : List Entry) : Prop :=
  (iu :: readings entries).take N.toNat = List.replicate N.toNat iu

/-- One more reading: either the count goes on, or the number is confirmed. -/
theorem Counting.countIU (hN : 2 ≤ N) (hcounting : Counting N reader entries) (iu : String) :
    (¬Confirms N iu entries ∧
        Counting N (reader.countIU iu) (.exchange (some iu) :: entries)) ∨
      (Confirms N iu entries ∧ (reader.countIU iu).successRecvIUFlag = true ∧
        (reader.countIU iu).iuNumber = iu ∧ (reader.countIU iu).successRecvIUCount = 0 ∧
        (reader.countIU iu).antennaIUCmdMinOKtimes = N) := by
  obtain ⟨rest, hhead, hreadings⟩ := hcounting.counted
  have hbelow := hcounting.below
  by_cases hprev : reader.iuNumberPrev = iu
  · -- the number of the exchange before
    subst hprev
    have hmore : reader.iuNumberPrev :: readings entries =
        List.replicate (reader.successRecvIUCount + 1) reader.iuNumberPrev ++ rest := by
      rw [hreadings]
      rfl
    have hconfirms : Confirms N reader.iuNumberPrev entries ↔
        N.toNat ≤ reader.successRecvIUCount + 1 := by
      rw [Confirms, hmore]
      exact take_replicate_append hhead _ _
    unfold IUReader.countIU
    rw [if_neg (not_not.mpr rfl), hcounting.setting]
    by_cases hlast : ((reader.successRecvIUCount + 1 : ℕ) : ℤ) = N
    · right
      rw [if_pos hlast]
      exact ⟨hconfirms.mpr (by omega), rfl, rfl, rfl, rfl⟩
    · left
      rw [if_neg hlast]
      refine ⟨fun h => ?_, rfl, hcounting.flag, ?_, ⟨rest, hhead, hmore⟩, ?_⟩
      · have := hconfirms.mp h
        omega
      · show ((reader.successRecvIUCount + 1 : ℕ) : ℤ) < N
        omega
      · intro hzero
        exact absurd hzero (Nat.succ_ne_zero _)
  · -- another number: the count starts again
    left
    have hdiffers : (readings entries).head? ≠ some iu := by
      by_cases hzero : reader.successRecvIUCount = 0
      · rw [hcounting.nothing hzero]
        simp
      · obtain ⟨count, hcount⟩ := Nat.exists_eq_succ_of_ne_zero hzero
        rw [hreadings, hcount]
        simpa [List.replicate_succ] using hprev
    have hone : iu :: readings entries = List.replicate 1 iu ++ readings entries := rfl
    have hconfirms : Confirms N iu entries ↔ N.toNat ≤ 1 := by
      rw [Confirms, hone]
      exact take_replicate_append hdiffers _ _
    unfold IUReader.countIU
    rw [if_pos hprev]
    refine ⟨fun h => ?_, hcounting.setting, hcounting.flag, ?_, ⟨_, hdiffers, hone⟩, ?_⟩
    · have := hconfirms.mp h
      omega
    · show ((1 : ℕ) : ℤ) < N
      omega
    · intro hzero
      exact absurd hzero Nat.one_ne_zero

/-! ## Every step -/

/-- The step ends an exchange whose reading confirms `iu`. -/
def Comes (N : ℤ) (reader : IUReader) (entries : List Entry) (next : Step) (iu : String) : Prop :=
  ∃ answer, next = .answer answer ∧ reader.iuLoop = .executing ∧ answer.reading = some iu ∧
    Confirms N iu entries

/-- What a step has to do. -/
def StepOK (N : ℤ) (entries : List Entry) (result : IUReader × List Entry)
    (comes : String → Prop) : Prop :=
  Counting N result.1 (result.2 ++ entries) ∧
    ∀ iu, .antennaIUCome iu ∈ result.2 ↔ comes iu

/-- A step that leaves the counters and the entries alone. -/
theorem Counting.stepOK_idle (hcounting : Counting N reader entries) {other : IUReader}
    {comes : String → Prop}
    (hsame : other.antennaIUCmdMinOKtimes = reader.antennaIUCmdMinOKtimes ∧
      other.successRecvIUFlag = reader.successRecvIUFlag ∧
      other.successRecvIUCount = reader.successRecvIUCount ∧
      other.iuNumberPrev = reader.iuNumberPrev)
    (hcomes : ∀ iu, ¬comes iu) : StepOK N entries (other, []) comes := by
  obtain ⟨hsetting, hflag, hcount, hprev⟩ := hsame
  exact ⟨hcounting.congr hsetting hflag hcount hprev rfl, fun iu => by simp [hcomes iu]⟩

/-- Behind the command, while no number is confirmed. -/
theorem Counting.finishExchange (hcounting : Counting N reader entries) :
    Counting N reader.finishExchange.1 (reader.finishExchange.2 ++ entries) ∧
      ∀ iu, .antennaIUCome iu ∉ reader.finishExchange.2 := by
  unfold IUReader.finishExchange
  rw [if_neg (by simp [hcounting.flag])]
  split
  · exact ⟨hcounting.congr rfl rfl rfl rfl rfl, by simp⟩
  · exact ⟨hcounting.congr rfl rfl rfl rfl rfl, by simp⟩

/-- Behind the command, when a number has just been confirmed. -/
theorem finishExchange_confirmed (hN : 2 ≤ N) (entries : List Entry)
    (hflag : reader.successRecvIUFlag = true)
    (hcount : reader.successRecvIUCount = 0) (hsetting : reader.antennaIUCmdMinOKtimes = N) :
    Counting N reader.finishExchange.1 (reader.finishExchange.2 ++ entries) ∧
      reader.finishExchange.2 = [.antennaIUCome reader.iuNumber] := by
  unfold IUReader.finishExchange
  rw [if_pos hflag]
  refine ⟨⟨hsetting, rfl, ?_, ⟨[], by simp, ?_⟩, fun _ => rfl⟩, rfl⟩
  · show (reader.successRecvIUCount : ℤ) < N
    rw [hcount]
    omega
  · show [] = List.replicate reader.successRecvIUCount reader.iuNumberPrev ++ []
    rw [hcount]
    rfl

/-- The command of an exchange without a numeric IU number. -/
theorem antennaCmd_of_reading_none (reader : IUReader) (entries : List Entry) {answer : Answer}
    (hreading : answer.reading = none) :
    (reader.antennaCmd answer).1 = reader ∧
      (∀ iu, .antennaIUCome iu ∉ (reader.antennaCmd answer).2) ∧
      readings ((reader.antennaCmd answer).2 ++ entries) = readings entries := by
  unfold antennaCmd
  cases hresponse : answer.response with
  | none => cases answer <;> simp [readings]
  | some receiver =>
      have hnone : receiver.reading = none := by simpa [Answer.reading, hresponse] using hreading
      simp [antennaHandleCmdResponse, hnone, hreading, readings]

theorem antennaCmd_of_reading_some {answer : Answer} {iu : String}
    (hreading : answer.reading = some iu) :
    reader.antennaCmd answer = (reader.countIU iu, [.exchange (some iu)]) := by
  unfold antennaCmd
  cases hresponse : answer.response with
  | none => simp [Answer.reading, hresponse] at hreading
  | some receiver =>
      have hsome : receiver.reading = some iu := by
        simpa [Answer.reading, hresponse] using hreading
      simp [antennaHandleCmdResponse, hsome, hreading]

/-- The end of an exchange. -/
theorem Counting.answer (hN : 2 ≤ N) (hcounting : Counting N reader entries) (answer : Answer)
    (hloop : reader.iuLoop = .executing) :
    StepOK N entries (reader.step (.answer answer)) (Comes N reader entries (.answer answer)) := by
  have hcomes (iu : String) : Comes N reader entries (.answer answer) iu ↔
      answer.reading = some iu ∧ Confirms N iu entries := by
    constructor
    · rintro ⟨other, hother, -, hconfirmed⟩
      obtain rfl := Step.answer.inj hother
      exact hconfirmed
    · intro hconfirmed
      exact ⟨answer, rfl, hloop, hconfirmed⟩
  simp only [StepOK, step, hloop, ne_eq, not_true_eq_false, if_false, hcomes,
    List.append_assoc, List.mem_append]
  cases hreading : answer.reading with
  | none =>
      obtain ⟨hsame, hnot, hreadings⟩ :=
        antennaCmd_of_reading_none reader entries hreading
      rw [hsame]
      obtain ⟨hstill, hnone⟩ := (hcounting.congr rfl rfl rfl rfl hreadings).finishExchange
      exact ⟨hstill, fun iu => by simp [hnone iu, hnot iu]⟩
  | some number =>
      rw [antennaCmd_of_reading_some hreading]
      rcases hcounting.countIU hN number with ⟨hnot, hstill⟩ | ⟨hconfirms, hflag, hiu, hzero, hset⟩
      · obtain ⟨hfinished, hnone⟩ := hstill.finishExchange
        refine ⟨hfinished, fun iu => ?_⟩
        constructor
        · intro hmem
          simp [hnone iu] at hmem
        · rintro ⟨heq, hconfirmed⟩
          obtain rfl := Option.some.inj heq
          exact absurd hconfirmed hnot
      · obtain ⟨hfinished, hevent⟩ := finishExchange_confirmed hN
          (.exchange (some number) :: entries) hflag hzero hset
        refine ⟨hfinished, fun iu => ?_⟩
        rw [hevent, hiu]
        constructor
        · intro hmem
          obtain rfl : iu = number := by simpa using hmem
          exact ⟨rfl, hconfirms⟩
        · rintro ⟨heq, -⟩
          obtain rfl := Option.some.inj heq
          simp

/-- Every step keeps the count, and enqueues the event when a number is confirmed. -/
theorem Counting.step (hN : 2 ≤ N) (hcounting : Counting N reader entries) (next : Step) :
    StepOK N entries (reader.step next) (Comes N reader entries next) := by
  have hnever (hnext : ∀ answer, next ≠ .answer answer) (iu : String) :
      ¬Comes N reader entries next iu := by
    rintro ⟨answer, hanswer, -⟩
    exact hnext answer hanswer
  cases next with
  | sendReadIUCmd =>
      refine hcounting.stepOK_idle ?_ (hnever (by simp))
      exact ⟨rfl, rfl, rfl, rfl⟩
  | stopRead =>
      refine hcounting.stepOK_idle ?_ (hnever (by simp))
      exact ⟨rfl, rfl, rfl, rfl⟩
  | startLoop portOpen =>
      simp only [IUReader.step]
      split_ifs
      all_goals
        refine hcounting.stepOK_idle ?_ (hnever (by simp))
        exact ⟨rfl, rfl, rfl, rfl⟩
  | tick send =>
      simp only [IUReader.step]
      split_ifs
      all_goals
        refine hcounting.stepOK_idle ?_ (hnever (by simp))
        exact ⟨rfl, rfl, rfl, rfl⟩
  | answer answer =>
      by_cases hloop : reader.iuLoop = .executing
      · exact hcounting.answer hN answer hloop
      · simp only [IUReader.step, ne_eq, hloop, not_false_eq_true, if_true]
        refine hcounting.stepOK_idle ⟨rfl, rfl, rfl, rfl⟩ ?_
        rintro iu ⟨-, -, hexecuting, -⟩
        exact hloop hexecuting

/-- Every run keeps the count. -/
theorem Counting.run (hN : 2 ≤ N) (steps : List Step) {reader : IUReader} {entries : List Entry}
    (hcounting : Counting N reader entries) :
    Counting N (reader.run steps).1 ((reader.run steps).2 ++ entries) := by
  induction steps generalizing reader entries with
  | nil => exact hcounting
  | cons next rest ih =>
      have hrest := ih (hcounting.step hN next).1
      rwa [← List.append_assoc] at hrest

/-! ## The event -/

/-- `Evt_AntennaIUCome` is enqueued exactly by the end of an exchange that returns a numeric
IU number for which the last `antennaIUCmdMinOKtimes` readings since the last such event, this
one included, are all the same. -/
theorem iuCome_iff (N : ℤ) (hN : 2 ≤ N) (steps : List Step) (next : Step) (iu : String) :
    .antennaIUCome iu ∈ (((initial N).run steps).1.step next).2 ↔
      ∃ answer, next = .answer answer ∧ ((initial N).run steps).1.iuLoop = .executing ∧
        answer.reading = some iu ∧
        (iu :: readings ((initial N).run steps).2).take N.toNat = List.replicate N.toNat iu := by
  have hcounting := (counting_initial hN).run hN steps
  rw [List.append_nil] at hcounting
  exact (hcounting.step hN next).2 iu

/-! ## Three exchanges -/

/-- The response of an IU, with the bytes of its number in the order they are sent. -/
def iuResponse (number : List UInt8) : Receiver :=
  let bytes : List UInt8 := [0x00, 0xB1, 0x3F, 0xB2, 0x01, 0x00, 0x05] ++ number
  ⟨.ignore, Vector.ofFn fun i => bytes.getD i 0, bytes.length + 1, 0⟩

/-- The exchange with the IU 1096000001. -/
def answered : Step := .answer (.attempts [some (iuResponse [0x01, 0x00, 0x00, 0x96, 0x10])])

/-- The four attempts of an exchange without a response. -/
def unanswered : Step := .answer (.attempts [none, none, none, none])

/-- The second of two equal readings. -/
theorem iuCome_iff_second :
    .antennaIUCome "1096000001" ∈ (((initial 2).run
      [.sendReadIUCmd, .startLoop true, .tick true, answered, .tick true]).1.step answered).2 :=
  (iuCome_iff 2 (by decide) [.sendReadIUCmd, .startLoop true, .tick true, answered, .tick true]
    answered "1096000001").mpr
    ⟨.attempts [some (iuResponse [0x01, 0x00, 0x00, 0x96, 0x10])], rfl, by decide +kernel,
      by decide +kernel, by decide +kernel⟩

/-- All exchanges of a run, the newest first. -/
def exchanges (entries : List Entry) : List (Option String) :=
  entries.filterMap fun entry => match entry with
    | .exchange reading => some reading
    | _ => none

/-- With a setting of 2 the event comes although one of the last two exchanges has failed, and
with a setting of 1 it does not come although the last exchange has returned the number. -/
theorem iuCome_after_failure :
    (let before := (initial 2).run [.sendReadIUCmd, .startLoop true, .tick true, answered,
        .tick true, unanswered, .tick true]
      let last := before.1.step answered
      .antennaIUCome "1096000001" ∈ last.2 ∧
        (exchanges (last.2 ++ before.2)).take 2 ≠ List.replicate 2 (some "1096000001")) ∧
    (let before := (initial 1).run [.sendReadIUCmd, .startLoop true, .tick true]
      let last := before.1.step answered
      .antennaIUCome "1096000001" ∉ last.2 ∧
        (exchanges (last.2 ++ before.2)).take 1 = List.replicate 1 (some "1096000001")) := by
  decide +kernel

end IUReader

end LinuxPBS.Antenna

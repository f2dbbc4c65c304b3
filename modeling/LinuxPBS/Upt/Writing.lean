import Mathlib.Data.List.Basic
import LinuxPBS.Upt.Client

/-!
# The frame on the wire

A write of the client goes through four phases.  Nothing is being written (`Resting`),
the frame waits for the write gap (`Delayed`), it is the buffer of an `async_write`
(`Writing`), or the completion handler of that write is queued (`Ended`).  `Orderly` is
the invariant that one of them describes the flags, the port and the queued handlers
together; it holds in every run, whatever happens (`orderly_run`), so no second write is
ever started and the buffer of a write stays the front of `writeQueue_`.

Whose frame that is it does not say: a cancel request that finds a write in progress
leaves frame and write alone, and the next command is queued behind it.
-/

namespace LinuxPBS.Upt

open Machine

/-! ## What the log says about frames -/

/-- The entries about frames. -/
def Outcome.isFrame : Outcome → Bool
  | .dequeued _ _ => true
  | .handed _ => true
  | .written _ => true
  | _ => false

/-- The part of the log that is about frames. -/
def wire (log : List Outcome) : List Outcome := log.filter Outcome.isFrame

/-- The command that was dequeued last, with its frame. -/
def lastDequeued : List Outcome → Option (UptCmd × TxFrame)
  | [] => none
  | .dequeued cmd frame :: _ => some (cmd, frame)
  | _ :: older => lastDequeued older

/-- Every frame handed to `async_write` is that of the command dequeued last. -/
def HandedCurrent : List Outcome → Prop
  | [] => True
  | .handed frame :: older =>
      (lastDequeued older).map Prod.snd = some frame ∧ HandedCurrent older
  | _ :: older => HandedCurrent older

/-- The frame of the command dequeued last has been completely written since. -/
def CurrentWritten : List Outcome → Prop
  | [] => False
  | .written frame :: older =>
      (lastDequeued older).map Prod.snd = some frame ∨ CurrentWritten older
  | .dequeued _ _ :: _ => False
  | _ :: older => CurrentWritten older

theorem wire_cons_of_false {entry : Outcome} (hentry : entry.isFrame = false)
    (log : List Outcome) : wire (entry :: log) = wire log := by
  simp [wire, hentry]

theorem wire_cons_of_true {entry : Outcome} (hentry : entry.isFrame = true)
    (log : List Outcome) : wire (entry :: log) = entry :: wire log := by
  simp [wire, hentry]

theorem lastDequeued_wire (log : List Outcome) : lastDequeued (wire log) = lastDequeued log := by
  induction log with
  | nil => rfl
  | cons entry older ih =>
      cases entry with
      | dequeued cmd frame => rfl
      | _ => exact ih

theorem handedCurrent_wire (log : List Outcome) :
    HandedCurrent (wire log) ↔ HandedCurrent log := by
  induction log with
  | nil => exact Iff.rfl
  | cons entry older ih =>
      cases entry with
      | handed frame =>
          rw [wire_cons_of_true rfl]
          simp only [HandedCurrent, lastDequeued_wire, ih]
      | _ => exact ih

theorem currentWritten_wire (log : List Outcome) :
    CurrentWritten (wire log) ↔ CurrentWritten log := by
  induction log with
  | nil => exact Iff.rfl
  | cons entry older ih =>
      cases entry with
      | written frame =>
          rw [wire_cons_of_true rfl]
          simp only [CurrentWritten, lastDequeued_wire, ih]
      | dequeued cmd frame => exact Iff.rfl
      | _ => exact ih

/-! ## What is queued -/

/-- The handlers of the write-gap timer. -/
def isDelay : Handler → Bool
  | .expired .serialWriteDelay => true
  | .delayAborted => true
  | _ => false

/-- The handlers of a write: those of the write-gap timer and the completion. -/
def ofWrite : Handler → Bool
  | .writeEnd _ => true
  | handler => isDelay handler

/-- The queued handlers of a write. -/
def writeHandlers (posted : List Handler) : List Handler := posted.filter ofWrite

/-- No `COMMAND_ENQUEUED` stands in front of a handler of a write. -/
def Clear : List Handler → Prop
  | [] => True
  | handler :: rest =>
      (handler = .event .commandEnqueued → writeHandlers rest = []) ∧ Clear rest

/-- Behind the clean-up of a cancelled command no command and no other clean-up is queued. -/
def CleanUpLast : List Handler → Prop
  | [] => True
  | handler :: rest =>
      (handler = .event .cancelCommandCleanUpAndEnqueue → .event .commandEnqueued ∉ rest ∧
        .event .cancelCommandCleanUpAndEnqueue ∉ rest) ∧ CleanUpLast rest

theorem writeHandlers_append (first second : List Handler) :
    writeHandlers (first ++ second) = writeHandlers first ++ writeHandlers second :=
  List.filter_append first second

theorem writeHandlers_cons_of_false {handler : Handler} (hhandler : ofWrite handler = false)
    (rest : List Handler) : writeHandlers (handler :: rest) = writeHandlers rest := by
  simp [writeHandlers, hhandler]

theorem writeHandlers_eq_nil {handlers : List Handler}
    (hnone : ∀ handler ∈ handlers, ofWrite handler = false) : writeHandlers handlers = [] :=
  List.filter_eq_nil_iff.mpr fun handler hmem => by simp [hnone handler hmem]

theorem clear_of_notMem {posted : List Handler} (hnone : .event .commandEnqueued ∉ posted) :
    Clear posted := by
  induction posted with
  | nil => trivial
  | cons handler rest ih =>
      rw [List.mem_cons, not_or] at hnone
      exact ⟨fun heq => absurd heq.symm hnone.1, ih hnone.2⟩

theorem Clear.append {posted more : List Handler} (hclear : Clear posted)
    (hmore : ∀ handler ∈ more, ofWrite handler = false) : Clear (posted ++ more) := by
  induction posted with
  | nil =>
      induction more with
      | nil => trivial
      | cons handler rest ih =>
          rw [List.forall_mem_cons] at hmore
          exact ⟨fun _ => writeHandlers_eq_nil hmore.2, ih hmore.2⟩
  | cons handler rest ih =>
      refine ⟨fun hcommand => ?_, ih hclear.2⟩
      show writeHandlers (rest ++ more) = []
      rw [writeHandlers_append, hclear.1 hcommand, writeHandlers_eq_nil hmore, List.append_nil]

theorem CleanUpLast.append {posted more : List Handler} (hlast : CleanUpLast posted)
    (hmore : ∀ handler ∈ more, handler ≠ .event .cancelCommandCleanUpAndEnqueue)
    (hcommand : .event .commandEnqueued ∈ more →
      .event .cancelCommandCleanUpAndEnqueue ∉ posted) : CleanUpLast (posted ++ more) := by
  induction posted with
  | nil =>
      induction more with
      | nil => trivial
      | cons handler rest ih =>
          rw [List.forall_mem_cons] at hmore
          refine ⟨fun heq => absurd heq hmore.1, ih hmore.2 (fun _ => List.not_mem_nil)⟩
  | cons handler rest ih =>
      refine ⟨fun heq => ?_, ih hlast.2 (fun hmem hin => hcommand hmem (List.mem_cons_of_mem _ hin))⟩
      obtain ⟨hnocommand, hnocleanup⟩ := hlast.1 heq
      constructor
      · intro hmem
        rcases List.mem_append.mp hmem with hold | hnew
        · exact hnocommand hold
        · exact hcommand hnew (heq ▸ List.mem_cons_self)
      · intro hmem
        rcases List.mem_append.mp hmem with hold | hnew
        · exact hnocleanup hold
        · exact hmore _ hnew rfl

/-- A clean-up behind handlers without one. -/
theorem CleanUpLast.concat {posted : List Handler} (hlast : CleanUpLast posted)
    (hnone : .event .cancelCommandCleanUpAndEnqueue ∉ posted) :
    CleanUpLast (posted ++ [.event .cancelCommandCleanUpAndEnqueue]) := by
  induction posted with
  | nil => exact ⟨fun _ => ⟨List.not_mem_nil, List.not_mem_nil⟩, trivial⟩
  | cons handler rest ih =>
      rw [List.mem_cons, not_or] at hnone
      exact ⟨fun heq => absurd heq.symm hnone.1, ih hlast.2 hnone.2⟩

/-- The events that end a transmission. -/
def Event.isVerdict : Event → Bool
  | .writeCompleted | .writeFailed | .writeTimeout => true
  | _ => false

/-- A handler that is no concern of a write; a `COMMAND_ENQUEUED` is only posted in `IDLE`. -/
def Plain (state : State) : Handler → Prop
  | .event .commandEnqueued => state = .idle
  | .event .cancelCommandCleanUpAndEnqueue => False
  | .event event => event.isVerdict = false
  | handler => ofWrite handler = false

theorem Plain.ofWrite {state : State} {handler : Handler} (hplain : Plain state handler) :
    ofWrite handler = false := by
  cases handler with
  | event event => rfl
  | _ => first | rfl | exact hplain

theorem Plain.ne_cleanUp {state : State} {handler : Handler} (hplain : Plain state handler) :
    handler ≠ .event .cancelCommandCleanUpAndEnqueue := by
  rintro rfl
  exact hplain

theorem Plain.ne_verdict {state : State} {handler : Handler} (hplain : Plain state handler)
    {event : Event} (hverdict : event.isVerdict) : handler ≠ .event event := by
  rintro rfl
  cases event <;> first | exact Bool.noConfusion hverdict | exact Bool.noConfusion hplain

namespace Client

/-! ## The transmission of a client -/

/-- What a write works on. -/
structure Transmission where
  writeQueue : List TxFrame
  writeInProgress : Bool
  writeDelayActive : Bool
  writing : Option TxFrame
  /-- the write-gap timer is armed -/
  delayed : Bool

/-- What the writes of the client work on. -/
def transmission (c : Client) : Transmission :=
  ⟨c.writeQueue, c.writeInProgress, c.writeDelayActive, c.writing, c.armed .serialWriteDelay⟩

/-- The client whose first handler has been taken. -/
def taken (c : Client) (rest : List Handler) : Client := { c with posted := rest }

/-- Nothing is being written. -/
def Resting (tx : Transmission) (queued : List Handler) : Prop :=
  tx.writeInProgress = false ∧ tx.writeDelayActive = false ∧ tx.writing = none ∧
    tx.delayed = false ∧ queued = []

/-- The frame waits for the write gap. -/
def Delayed (tx : Transmission) (queued : List Handler) : Prop :=
  tx.writeInProgress = true ∧ tx.writeDelayActive = true ∧ tx.writing = none ∧
    tx.writeQueue ≠ [] ∧
    (tx.delayed = true ∧ queued = [] ∨
      tx.delayed = false ∧ queued = [.expired .serialWriteDelay])

/-- The front of the queue is the buffer of an `async_write`. -/
def Writing (tx : Transmission) (queued : List Handler) : Prop :=
  tx.writeInProgress = true ∧ tx.writeDelayActive = false ∧ tx.delayed = false ∧ queued = [] ∧
    ∃ frame, tx.writing = some frame ∧ tx.writeQueue.head? = some frame

/-- The completion handler of the write is queued. -/
def Ended (tx : Transmission) (queued : List Handler) : Prop :=
  tx.writeInProgress = true ∧ tx.writeDelayActive = false ∧ tx.writing = none ∧
    tx.delayed = false ∧ tx.writeQueue ≠ [] ∧ ∃ error, queued = [.writeEnd error]

/-- One of the four phases of a write. -/
def Phase (tx : Transmission) (queued : List Handler) : Prop :=
  Resting tx queued ∨ Delayed tx queued ∨ Writing tx queued ∨ Ended tx queued

/-- Nothing is being written, but behind a cancelled wait for the write gap the handler of
its timer is still queued, in front of the next command. -/
def Leftover (c : Client) : Prop :=
  c.currentState = .idle ∧ Clear c.posted ∧ Resting c.transmission [] ∧
    ∃ handler, isDelay handler = true ∧ writeHandlers c.posted = [handler]

/-- The flags, the port and the queued handlers are in a phase of a write, and the clean-up
of a cancelled command is queued in `CANCEL_COMMAND_REQUEST` only. -/
structure Orderly (c : Client) : Prop where
  phase : Phase c.transmission (writeHandlers c.posted) ∨ c.Leftover
  cleanUp : .event .cancelCommandCleanUpAndEnqueue ∈ c.posted →
    c.currentState = .cancelCommandRequest
  cleanUpLast : CleanUpLast c.posted

/-! ## What has nothing to do with a write -/

/-- The transmission, the command and the frames of the log are as before, and what has been
posted is plain. -/
def Still (c d : Client) : Prop :=
  d.transmission = c.transmission ∧ d.currentState = c.currentState ∧
    (d.currentCmd = c.currentCmd ∧ d.count = c.count) ∧ wire d.log = wire c.log ∧
    ∃ more, d.posted = c.posted ++ more ∧ ∀ handler ∈ more, Plain c.currentState handler

variable {c d : Client}

theorem Still.refl (c : Client) : Still c c :=
  ⟨rfl, rfl, ⟨rfl, rfl⟩, rfl, [], (List.append_nil _).symm,
    fun _ hmem => absurd hmem List.not_mem_nil⟩

theorem Still.post (hstill : Still c d) {handler : Handler}
    (hplain : Plain c.currentState handler) : Still c (d.post handler) := by
  obtain ⟨htx, hstate, hcmd, hwire, more, hposted, hmore⟩ := hstill
  refine ⟨htx, hstate, hcmd, hwire, more ++ [handler], ?_, ?_⟩
  · show d.posted ++ [handler] = _
    rw [hposted, List.append_assoc]
  · rw [List.forall_mem_append]
    exact ⟨hmore, List.forall_mem_singleton.mpr hplain⟩

theorem Still.processEvent (hstill : Still c d) {event : Event}
    (hplain : Plain c.currentState (.event event)) : Still c (d.processEvent event) :=
  hstill.post hplain

theorem Still.enqueueCommand (hstill : Still c d) (cmd : UptCmd) (data : Option CommandData) :
    Still c (d.enqueueCommand cmd data) :=
  hstill.post rfl

theorem Still.ite {other : Client} (hstill : Still c d) (hother : Still c other) (p : Prop)
    [Decidable p] : Still c (if p then d else other) := by
  split
  · exact hstill
  · exact hother

theorem Still.note (hstill : Still c d) {entry : Outcome} (hentry : entry.isFrame = false) :
    Still c (d.note entry) := by
  obtain ⟨htx, hstate, hcmd, hwire, hposted⟩ := hstill
  refine ⟨htx, hstate, hcmd, ?_, hposted⟩
  show wire (entry :: d.log) = _
  rw [wire_cons_of_false hentry, hwire]

theorem Still.arm (hstill : Still c d) {timer : Timer} (htimer : timer ≠ .serialWriteDelay)
    (value : Bool) : Still c { d with armed := Function.update d.armed timer value } := by
  obtain ⟨htx, hrest⟩ := hstill
  refine ⟨?_, hrest⟩
  rw [← htx]
  show Transmission.mk _ _ _ _ (Function.update d.armed timer value .serialWriteDelay) = _
  rw [Function.update_of_ne (Ne.symm htimer)]
  rfl

theorem cancel_of_ne {timer : Timer} (htimer : timer ≠ .serialWriteDelay) :
    c.cancel timer = { c with armed := Function.update c.armed timer false } := by
  simp [Client.cancel, htimer]

theorem Still.cancel (hstill : Still c d) {timer : Timer} (htimer : timer ≠ .serialWriteDelay) :
    Still c (d.cancel timer) := by
  rw [cancel_of_ne htimer]
  exact hstill.arm htimer false

theorem Still.start (hstill : Still c d) {timer : Timer} (htimer : timer ≠ .serialWriteDelay) :
    Still c (d.start timer) :=
  (hstill.cancel htimer).arm htimer true

theorem Still.checkCommandQueue (hstill : Still c d) : Still c d.checkCommandQueue := by
  have hstate : d.currentState = c.currentState := hstill.2.1
  unfold Client.checkCommandQueue
  split_ifs with hbusy hqueue
  · exact hstill
  · exact hstill.processEvent (hstate.symm.trans (not_not.mp hbusy))
  · exact hstill

theorem Still.enqueueCommandOnIoThread (hstill : Still c d) (cmd : UptCmd)
    (data : Option CommandData) (front : Bool) :
    Still c (d.enqueueCommandOnIoThread cmd data front) :=
  Still.checkCommandQueue hstill

theorem Still.handleCmdErrorOrTimeout (hstill : Still c d) (msgStatus : MsgStatus) :
    Still c (d.handleCmdErrorOrTimeout msgStatus) := by
  unfold Client.handleCmdErrorOrTimeout
  split_ifs
  · exact hstill.note rfl
  · exact hstill

theorem Still.handleReceivedCmd (hstill : Still c d) (msgDataBuff : List UInt8) :
    Still c (d.handleReceivedCmd msgDataBuff) := by
  unfold Client.handleReceivedCmd
  cases d.receivedMessage msgDataBuff with
  | none => exact hstill
  | some msg =>
      have hack : Still c (d.handleAck msg) := by
        unfold Client.handleAck
        split_ifs
        · exact (hstill.cancel (by decide)).processEvent rfl
        · exact (hstill.cancel (by decide)).processEvent rfl
      have hrsp : Still c (d.handleRsp msg) := by
        unfold Client.handleRsp Client.handleCmdResponse
        split
        · exact ((hstill.note rfl).cancel (by decide)).processEvent rfl
        · exact (hstill.cancel (by decide)).processEvent rfl
      have hclass := hack.ite (hrsp.ite hstill (msg.header.msgClass = msgClassRsp))
        (msg.header.msgClass = msgClassAck)
      have hreset := (hclass.enqueueCommand .deviceResetSequenceNumberRequest none).ite hclass
        (msg.header.msgStatus = msgStatusInvalidParameter)
      exact (hreset.enqueueCommand .deviceLogonRequest none).ite hreset
        (msg.header.msgStatus = msgStatusSofLogonRequired)

theorem Still.handleFrames (hstill : Still c d) (frames : List (List UInt8)) :
    Still c (d.handleFrames frames) := by
  induction frames generalizing d with
  | nil => exact hstill
  | cons frame rest ih => exact ih (hstill.handleReceivedCmd frame)

theorem Still.readEnd (hstill : Still c d) (data : List UInt8) : Still c (d.readEnd data) := by
  have hread : Still c { d with
      lastSerialReadTime := d.now
      receiver := (consumeReceivedBytes d.receiver data).1 } := hstill
  exact hread.handleFrames _

/-! ## Every run is orderly -/

/-- Handlers behind the queued ones that are no concern of the order. -/
theorem Orderly.append (horderly : Orderly c) {more : List Handler}
    (hposted : d.posted = c.posted ++ more) (htx : d.transmission = c.transmission)
    (hstate : d.currentState = c.currentState)
    (hwrite : ∀ handler ∈ more, LinuxPBS.Upt.ofWrite handler = false)
    (hcleanUp : ∀ handler ∈ more, handler ≠ .event .cancelCommandCleanUpAndEnqueue)
    (hcommand : .event .commandEnqueued ∈ more → c.currentState = .idle) : Orderly d := by
  have hqueued : writeHandlers d.posted = writeHandlers c.posted := by
    rw [hposted, writeHandlers_append, writeHandlers_eq_nil hwrite, List.append_nil]
  refine ⟨?_, fun hmem => ?_, ?_⟩
  · rw [htx, hqueued]
    refine horderly.phase.imp id ?_
    rintro ⟨hidle, hclear, hresting, hdelay⟩
    refine ⟨hstate.trans hidle, ?_, htx ▸ hresting, hqueued ▸ hdelay⟩
    rw [hposted]
    exact hclear.append hwrite
  · rw [hposted, List.mem_append] at hmem
    rw [hstate]
    exact horderly.cleanUp (hmem.resolve_right fun hnew => hcleanUp _ hnew rfl)
  · rw [hposted]
    refine horderly.cleanUpLast.append hcleanUp fun hnew hold => ?_
    have hidle : c.currentState = .idle := hcommand hnew
    rw [horderly.cleanUp hold] at hidle
    cases hidle

theorem Orderly.still (horderly : Orderly c) (hstill : Still c d) : Orderly d := by
  obtain ⟨htx, hstate, -, -, more, hposted, hmore⟩ := hstill
  exact horderly.append hposted htx hstate (fun handler hmem => (hmore handler hmem).ofWrite)
    (fun handler hmem => (hmore handler hmem).ne_cleanUp) (fun hnew => hmore _ hnew)

theorem Orderly.processEvent (horderly : Orderly c) {event : Event}
    (hcommand : event ≠ .commandEnqueued) (hcleanUp : event ≠ .cancelCommandCleanUpAndEnqueue) :
    Orderly (c.processEvent event) := by
  refine horderly.append (d := c.processEvent event) rfl rfl rfl ?_ ?_ ?_
  · exact List.forall_mem_singleton.mpr rfl
  · exact List.forall_mem_singleton.mpr fun heq => hcleanUp (Handler.event.inj heq)
  · intro hmem
    exact absurd (Handler.event.inj (List.mem_singleton.mp hmem)).symm hcommand

/-- A handler is taken, and the write goes on. -/
theorem Orderly.rephase_tail (horderly : Orderly c) {handler : Handler} {rest : List Handler}
    (hposted : c.posted = handler :: rest) (htail : d.posted = rest)
    (hstate : d.currentState = c.currentState)
    (hphase : Phase d.transmission (writeHandlers rest)) : Orderly d := by
  have hcleanUp := horderly.cleanUp
  have hlast := horderly.cleanUpLast
  rw [hposted] at hcleanUp hlast
  refine ⟨.inl (htail.symm ▸ hphase), fun hmem => ?_, ?_⟩
  · rw [htail] at hmem
    rw [hstate]
    exact hcleanUp (List.mem_cons_of_mem _ hmem)
  · rw [htail]
    exact hlast.2

/-- Taking a handler that is not one of a write. -/
theorem Orderly.take (horderly : Orderly c) {handler : Handler} {rest : List Handler}
    (hposted : c.posted = handler :: rest) (hhandler : LinuxPBS.Upt.ofWrite handler = false) :
    Orderly (c.taken rest) := by
  have hphase := horderly.phase
  have hcleanUp := horderly.cleanUp
  have hlast := horderly.cleanUpLast
  unfold Leftover at hphase
  rw [hposted, writeHandlers_cons_of_false hhandler] at hphase
  rw [hposted] at hcleanUp hlast
  refine ⟨hphase.imp id ?_, fun hmem => hcleanUp (List.mem_cons_of_mem _ hmem), hlast.2⟩
  rintro ⟨hidle, hclear, hrest⟩
  exact ⟨hidle, hclear.2, hrest⟩

/-- A change of the state that is not about a cancelled command. -/
theorem Orderly.enter (horderly : Orderly c) {next : State} (hleft : c.Leftover → next = .idle)
    (hcancel : c.currentState ≠ .cancelCommandRequest) : Orderly (c.enter next) := by
  have hentered : Orderly { c with currentState := next } :=
    ⟨horderly.phase.imp id fun hleftover => ⟨hleft hleftover, hleftover.2⟩,
      fun hin => absurd (horderly.cleanUp hin) hcancel, horderly.cleanUpLast⟩
  unfold Client.enter
  split_ifs with hidle
  · exact hentered.still ((Still.refl _).post rfl)
  · exact hentered

theorem cancel_of_idle {timer : Timer} (hidle : c.armed timer = false) :
    c.cancel timer = { c with armed := Function.update c.armed timer false } := by
  simp [Client.cancel, hidle]

theorem start_of_idle {timer : Timer} (hidle : c.armed timer = false) :
    c.start timer = { c with armed := Function.update c.armed timer true } := by
  simp only [Client.start, cancel_of_idle hidle, Function.update_idem]

/-- With no write under way the front of the queue, if there is one, is handed to the port or
waits for the write gap. -/
theorem startWrite_spec (hactive : c.writeDelayActive = false) (hwriting : c.writing = none)
    (hdelayed : c.armed .serialWriteDelay = false) :
    c.startWrite.posted = c.posted ∧ c.startWrite.currentState = c.currentState ∧
      Phase c.startWrite.transmission [] := by
  unfold Client.startWrite
  split
  · exact ⟨rfl, rfl, .inl ⟨rfl, hactive, hwriting, hdelayed, rfl⟩⟩
  · rename_i front rest hqueue
    have hne : c.writeQueue ≠ [] := hqueue ▸ List.cons_ne_nil front rest
    have hhead : c.writeQueue.head? = some front := hqueue ▸ rfl
    dsimp only
    split_ifs with hgap
    · rw [start_of_idle]
      · have harmed : Function.update c.armed .serialWriteDelay true .serialWriteDelay = true :=
          Function.update_self _ _ _
        exact ⟨rfl, rfl, .inr (.inl ⟨rfl, rfl, hwriting, hne, .inl ⟨harmed, rfl⟩⟩)⟩
      · exact hdelayed
    · exact ⟨rfl, rfl, .inr (.inr (.inl ⟨rfl, rfl, hdelayed, rfl, front, rfl, hhead⟩))⟩

/-- One more frame behind a write that is under way. -/
theorem Phase.concat {tx : Transmission} {queued : List Handler} (hphase : Phase tx queued)
    (hbusy : tx.writeInProgress = true) (data : TxFrame) :
    Phase { tx with writeQueue := tx.writeQueue ++ [data] } queued := by
  have hne : tx.writeQueue ++ [data] ≠ [] := by simp
  rcases hphase with hresting | hdelayed | hwriting | hended
  · rw [hresting.1] at hbusy
    cases hbusy
  · obtain ⟨hprogress, hactive, hnone, -, hrest⟩ := hdelayed
    exact .inr (.inl ⟨hprogress, hactive, hnone, hne, hrest⟩)
  · obtain ⟨hprogress, hactive, hnotarmed, hqueued, frame, hframe, hfront⟩ := hwriting
    refine .inr (.inr (.inl ⟨hprogress, hactive, hnotarmed, hqueued, frame, hframe, ?_⟩))
    rw [List.head?_append, hfront]
    rfl
  · obtain ⟨hprogress, hactive, hnone, hnotarmed, -, hrest⟩ := hended
    exact .inr (.inr (.inr ⟨hprogress, hactive, hnone, hnotarmed, hne, hrest⟩))

/-- A phase without a write in progress. -/
theorem Phase.resting {tx : Transmission} {queued : List Handler} (hphase : Phase tx queued)
    (hidle : tx.writeInProgress = false) : Resting tx queued := by
  rcases hphase with hresting | hother
  · exact hresting
  · have hbusy : tx.writeInProgress = true := by
      rcases hother with hdelayed | hwriting | hended
      · exact hdelayed.1
      · exact hwriting.1
      · exact hended.1
    rw [hidle] at hbusy
    cases hbusy

theorem enqueueWrite_of_busy {data : TxFrame} (hdata : data.bytes ≠ [])
    (hbusy : c.writeInProgress = true) :
    c.enqueueWrite data = { c with writeQueue := c.writeQueue ++ [data] } := by
  simp [Client.enqueueWrite, hdata, hbusy]

theorem enqueueWrite_of_free {data : TxFrame} (hdata : data.bytes ≠ [])
    (hfree : c.writeInProgress = false) :
    c.enqueueWrite data =
      ({ c with writeQueue := c.writeQueue ++ [data] } : Client).startWrite := by
  simp [Client.enqueueWrite, hdata, hfree]

theorem enqueueWrite_spec {queued : List Handler} (hphase : Phase c.transmission queued)
    (data : TxFrame) :
    (c.enqueueWrite data).posted = c.posted ∧
      (c.enqueueWrite data).currentState = c.currentState ∧
        Phase (c.enqueueWrite data).transmission queued := by
  by_cases hdata : data.bytes = []
  · rw [Client.enqueueWrite, if_pos hdata]
    exact ⟨rfl, rfl, hphase⟩
  · cases hbusy : c.writeInProgress with
    | true =>
        rw [enqueueWrite_of_busy hdata hbusy]
        exact ⟨rfl, rfl, hphase.concat hbusy data⟩
    | false =>
        obtain ⟨-, hactive, hwriting, hdelayed, rfl⟩ := hphase.resting hbusy
        rw [enqueueWrite_of_free hdata hbusy]
        exact startWrite_spec hactive hwriting hdelayed

/-- The frame of a command that is taken from the queue. -/
def nextFrame (c : Client) (cmdData : CommandWithData) : TxFrame :=
  ⟨c.count + 1, (prepareCmd c.clock c.sequenceNo cmdData.cmd cmdData.data).1⟩

/-- The client that has taken a command from the queue. -/
def dequeue (c : Client) (cmdData : CommandWithData) (rest : List CommandWithData) : Client :=
  { c with
    commandQueue := rest
    currentCmd := cmdData.cmd
    sequenceNo := (prepareCmd c.clock c.sequenceNo cmdData.cmd cmdData.data).2
    count := c.count + 1 }.note (.dequeued cmdData.cmd (c.nextFrame cmdData))

theorem popFromCommandQueueAndEnqueueWrite_nil (hqueue : c.commandQueue = []) :
    c.popFromCommandQueueAndEnqueueWrite = c := by
  unfold Client.popFromCommandQueueAndEnqueueWrite
  rw [hqueue]

theorem popFromCommandQueueAndEnqueueWrite_cons {cmdData : CommandWithData}
    {rest : List CommandWithData} (hqueue : c.commandQueue = cmdData :: rest) :
    c.popFromCommandQueueAndEnqueueWrite =
      (c.dequeue cmdData rest).enqueueWrite (c.nextFrame cmdData) := by
  unfold Client.popFromCommandQueueAndEnqueueWrite
  rw [hqueue]
  rfl

theorem popFromCommandQueueAndEnqueueWrite_spec {queued : List Handler}
    (hphase : Phase c.transmission queued) :
    c.popFromCommandQueueAndEnqueueWrite.posted = c.posted ∧
      c.popFromCommandQueueAndEnqueueWrite.currentState = c.currentState ∧
        Phase c.popFromCommandQueueAndEnqueueWrite.transmission queued := by
  cases hqueue : c.commandQueue with
  | nil =>
      rw [popFromCommandQueueAndEnqueueWrite_nil hqueue]
      exact ⟨rfl, rfl, hphase⟩
  | cons cmdData rest =>
      rw [popFromCommandQueueAndEnqueueWrite_cons hqueue]
      exact enqueueWrite_spec (c := c.dequeue cmdData rest) hphase _

/-! ### Events -/

theorem stopSerialWriteDelayTimer_of_active (hactive : c.writeDelayActive = true) :
    c.stopSerialWriteDelayTimer = { c.cancel .serialWriteDelay with
      writeDelayActive := false
      writeQueue := c.writeQueue.tail
      writeInProgress := false } := by
  simp [Client.stopSerialWriteDelayTimer, hactive]

theorem stopSerialWriteDelayTimer_of_inactive (hactive : c.writeDelayActive = false) :
    c.stopSerialWriteDelayTimer = c := by
  simp [Client.stopSerialWriteDelayTimer, hactive]

theorem cancel_of_armed (harmed : c.armed .serialWriteDelay = true) :
    c.cancel .serialWriteDelay =
      ({ c with armed := Function.update c.armed .serialWriteDelay false } : Client).post
        .delayAborted := by
  simp [Client.cancel, harmed]

/-- In `IDLE`, with no command queued, a wait for the write gap can be given up. -/
theorem Orderly.stopSerialWriteDelayTimer (horderly : Orderly c) (hidle : c.currentState = .idle)
    (hcommand : .event .commandEnqueued ∉ c.posted) : Orderly c.stopSerialWriteDelayTimer := by
  cases hactive : c.writeDelayActive with
  | false =>
      rw [stopSerialWriteDelayTimer_of_inactive hactive]
      exact horderly
  | true =>
      rw [stopSerialWriteDelayTimer_of_active hactive]
      have hne : ¬ c.writeDelayActive = false := by simp [hactive]
      have hoff : Function.update c.armed .serialWriteDelay false .serialWriteDelay = false :=
        Function.update_self _ _ _
      rcases horderly.phase with (hresting | hdelayed | hwriting | hended) | hleftover
      · exact absurd hresting.2.1 hne
      · obtain ⟨-, -, hwriting, -, ⟨harmed, hqueued⟩ | ⟨harmed, hqueued⟩⟩ := hdelayed
        -- the handler of the timer follows the queued handlers
        · rw [cancel_of_armed harmed]
          have hmem : ∀ event, (.event event : Handler) ∈ c.posted ++ [.delayAborted] →
              .event event ∈ c.posted := by simp
          refine ⟨.inr ⟨hidle, clear_of_notMem fun hin => hcommand (hmem _ hin),
            ⟨rfl, rfl, hwriting, hoff, rfl⟩, .delayAborted, rfl, ?_⟩,
            fun hin => horderly.cleanUp (hmem _ hin), ?_⟩
          · show writeHandlers (c.posted ++ [.delayAborted]) = _
            rw [writeHandlers_append, hqueued]
            rfl
          · refine horderly.cleanUpLast.append (List.forall_mem_singleton.mpr ?_) (fun hin => ?_)
            · exact Handler.noConfusion
            · cases List.mem_singleton.mp hin
        -- the timer has expired, and its handler is queued
        · rw [cancel_of_idle harmed]
          exact ⟨.inr ⟨hidle, clear_of_notMem hcommand,
            ⟨rfl, rfl, hwriting, hoff, rfl⟩, _, rfl, hqueued⟩,
            horderly.cleanUp, horderly.cleanUpLast⟩
      · exact absurd hwriting.2.1 hne
      · exact absurd hended.2.1 hne
      · exact absurd hleftover.2.2.1.2.1 hne

/-- Another state. -/
def inState (c : Client) (next : State) : Client := { c with currentState := next }

theorem stopSerialWriteDelayTimer_inState (c : Client) (next : State) :
    c.stopSerialWriteDelayTimer.inState next = (c.inState next).stopSerialWriteDelayTimer := by
  have hsame : (c.inState next).writeDelayActive = c.writeDelayActive := rfl
  have htimer : (c.inState next).armed .serialWriteDelay = c.armed .serialWriteDelay := rfl
  cases hactive : c.writeDelayActive with
  | false =>
      rw [stopSerialWriteDelayTimer_of_inactive hactive,
        stopSerialWriteDelayTimer_of_inactive (hsame.trans hactive)]
  | true =>
      rw [stopSerialWriteDelayTimer_of_active hactive,
        stopSerialWriteDelayTimer_of_active (hsame.trans hactive)]
      cases harmed : c.armed .serialWriteDelay with
      | false =>
          rw [cancel_of_idle harmed, cancel_of_idle (htimer.trans harmed)]
          rfl
      | true =>
          rw [cancel_of_armed harmed, cancel_of_armed (htimer.trans harmed)]
          rfl

/-- The timers that are armed while a command is under way are cancelled. -/
def disarm (c : Client) : Client :=
  { c with
    armed := Function.update (Function.update (Function.update c.armed .ack false) .rsp false)
      .serialWrite false }

/-- The clean-up cancels the timers of the command, and goes on in `IDLE`. -/
theorem cleanUp_eq (c : Client) :
    (c.handleCancelCommandRequestState .cancelCommandCleanUpAndEnqueue).enter .idle =
      ((c.disarm.inState .idle).stopSerialWriteDelayTimer.processEvent .cancelCommand).post
        .checkCommandQueue := by
  rw [← stopSerialWriteDelayTimer_inState, Client.handleCancelCommandRequestState, if_pos rfl,
    Client.enter, if_pos rfl, cancel_of_ne (by decide), cancel_of_ne (by decide),
    cancel_of_ne (by decide)]
  rfl

/-- The clean-up of a cancelled command. -/
theorem Orderly.cleanUpEvent (horderly : Orderly c)
    (hcommand : .event .commandEnqueued ∉ c.posted)
    (hcleanUp : .event .cancelCommandCleanUpAndEnqueue ∉ c.posted) :
    Orderly ((c.handleCancelCommandRequestState .cancelCommandCleanUpAndEnqueue).enter .idle) := by
  have hentered : Orderly (c.disarm.inState .idle) :=
    ⟨horderly.phase.imp id fun hleftover => ⟨rfl, hleftover.2⟩, fun hin => absurd hin hcleanUp,
      horderly.cleanUpLast⟩
  rw [cleanUp_eq]
  exact ((hentered.stopSerialWriteDelayTimer rfl hcommand).processEvent (by decide)
    (by decide)).still ((Still.refl _).post rfl)

/-- A cancel request while a command is under way. -/
theorem Orderly.cancelRequest (horderly : Orderly c) (hbusy : c.currentState ≠ .idle)
    (hcancel : c.currentState ≠ .cancelCommandRequest) :
    Orderly ((c.processEvent .cancelCommandCleanUpAndEnqueue).enter .cancelCommandRequest) := by
  refine ⟨.inl ?_, fun _ => rfl, ?_⟩
  · show Phase c.transmission (writeHandlers (c.posted ++ _))
    rw [writeHandlers_append, writeHandlers_eq_nil (List.forall_mem_singleton.mpr rfl),
      List.append_nil]
    exact horderly.phase.resolve_right fun hleftover => hbusy hleftover.1
  · exact horderly.cleanUpLast.concat fun hin => hcancel (horderly.cleanUp hin)

/-- While a command is under way every event but a cancel request leaves the write alone. -/
theorem still_eventHandler (hidle : c.currentState ≠ .idle)
    (hcancel : c.currentState ≠ .cancelCommandRequest) {event : Event}
    (hevent : event ≠ .cancelCommand) : Still c (c.eventHandler event) := by
  unfold Client.eventHandler
  cases hstate : c.currentState with
  | idle => exact absurd hstate hidle
  | cancelCommandRequest => exact absurd hstate hcancel
  | sendingRequestAsync =>
      dsimp only
      unfold Client.handleSendingRequestAsyncState
      split_ifs
      · exact ((Still.refl c).cancel (by decide)).start (by decide)
      · exact ((Still.refl c).cancel (by decide)).handleCmdErrorOrTimeout _
      · exact (Still.refl c).handleCmdErrorOrTimeout _
      · exact Still.refl c
  | waitingForAck =>
      dsimp only
      unfold Client.handleWaitingForAckState
      split_ifs
      · exact (Still.refl c).start (by decide)
      · exact (Still.refl c).handleCmdErrorOrTimeout _
      · exact Still.refl c
  | waitingForResponse =>
      dsimp only
      unfold Client.handleWaitingForResponseState
      split_ifs
      · exact Still.refl c
      · exact (Still.refl c).handleCmdErrorOrTimeout _
      · exact Still.refl c

/-- A cancel request while a command is under way only queues the clean-up. -/
theorem eventHandler_cancelCommand (hidle : c.currentState ≠ .idle)
    (hcancel : c.currentState ≠ .cancelCommandRequest) :
    c.eventHandler .cancelCommand = c.processEvent .cancelCommandCleanUpAndEnqueue := by
  unfold Client.eventHandler
  cases hstate : c.currentState with
  | idle => exact absurd hstate hidle
  | cancelCommandRequest => exact absurd hstate hcancel
  | _ => rfl

theorem eventHandler_idle (hidle : c.currentState = .idle) (event : Event) :
    c.eventHandler event = c.handleIdleState event := by
  rw [Client.eventHandler, hidle]

theorem eventHandler_cancelCommandRequest (hcancel : c.currentState = .cancelCommandRequest)
    (event : Event) : c.eventHandler event = c.handleCancelCommandRequestState event := by
  rw [Client.eventHandler, hcancel]

/-- What `IDLE` does with the events it knows. -/
theorem stateTransitionTable_idle {event : Event} {next : State}
    (hnext : stateTransitionTable .idle event = some next) :
    event = .commandEnqueued ∧ next = .sendingRequestAsync ∨
      event = .cancelCommand ∧ next = .idle := by
  cases event <;> simp_all [stateTransitionTable]

/-- While a command is under way a cancel request, and nothing else, leads to
`CANCEL_COMMAND_REQUEST`. -/
theorem stateTransitionTable_busy {state next : State} {event : Event} (hidle : state ≠ .idle)
    (hcancel : state ≠ .cancelCommandRequest)
    (hnext : stateTransitionTable state event = some next) :
    event = .cancelCommand ∧ next = .cancelCommandRequest ∨
      event ≠ .cancelCommand ∧ next ≠ .cancelCommandRequest := by
  cases state <;> cases event <;> simp_all [stateTransitionTable] <;> rintro rfl <;> cases hnext

theorem stateTransitionTable_cancel {event : Event} {next : State}
    (hnext : stateTransitionTable .cancelCommandRequest event = some next) :
    event = .cancelCommandCleanUpAndEnqueue ∧ next = .idle := by
  cases event <;> simp_all [stateTransitionTable]

/-- The next command is taken from the queue. -/
theorem Orderly.commandEvent (horderly : Orderly c) (hidle : c.currentState = .idle)
    (hready : ¬ c.Leftover) :
    Orderly ((c.handleIdleState .commandEnqueued).enter .sendingRequestAsync) := by
  have hphase := horderly.phase.resolve_right hready
  obtain ⟨hposted, -, hpopped⟩ := popFromCommandQueueAndEnqueueWrite_spec hphase
  have htx := ((Still.refl c.popFromCommandQueueAndEnqueueWrite).start
    (show Timer.serialWrite ≠ .serialWriteDelay by decide)).1
  have hsame : (c.popFromCommandQueueAndEnqueueWrite.start .serialWrite).posted = c.posted := by
    rw [Client.start, cancel_of_ne (by decide)]
    exact hposted
  rw [Client.handleIdleState, if_pos rfl, Client.enter, if_neg (by decide)]
  refine ⟨.inl ?_, ?_, ?_⟩
  · show Phase (c.popFromCommandQueueAndEnqueueWrite.start .serialWrite).transmission _
    rw [htx]
    exact hsame.symm ▸ hpopped
  · intro hin
    have hcancel := horderly.cleanUp (hsame ▸ hin)
    rw [hidle] at hcancel
    cases hcancel
  · exact hsame.symm ▸ horderly.cleanUpLast

theorem Orderly.runEvent (horderly : Orderly c) (event : Event)
    (hready : event = .commandEnqueued → ¬ c.Leftover)
    (hcleanUp : event = .cancelCommandCleanUpAndEnqueue → .event .commandEnqueued ∉ c.posted ∧
      .event .cancelCommandCleanUpAndEnqueue ∉ c.posted) : Orderly (c.runEvent event) := by
  unfold Client.runEvent
  cases hnext : stateTransitionTable c.currentState event with
  | none => exact horderly
  | some next =>
      dsimp only
      by_cases hidle : c.currentState = .idle
      · rw [eventHandler_idle hidle]
        rcases stateTransitionTable_idle (hidle ▸ hnext) with ⟨rfl, rfl⟩ | ⟨rfl, rfl⟩
        · exact horderly.commandEvent hidle (hready rfl)
        · have hqueued : Orderly (c.enqueueCommandToFront .cancelCommandRequest) :=
            horderly.still ((Still.refl c).post rfl)
          refine hqueued.enter (fun _ => rfl) ?_
          show c.currentState ≠ _
          rw [hidle]
          decide
      · by_cases hcancel : c.currentState = .cancelCommandRequest
        · obtain ⟨rfl, rfl⟩ := stateTransitionTable_cancel (hcancel ▸ hnext)
          rw [eventHandler_cancelCommandRequest hcancel]
          obtain ⟨hcommand, hother⟩ := hcleanUp rfl
          exact horderly.cleanUpEvent hcommand hother
        · rcases stateTransitionTable_busy hidle hcancel hnext with ⟨rfl, rfl⟩ | ⟨hne, -⟩
          · rw [eventHandler_cancelCommand hidle hcancel]
            exact horderly.cancelRequest hidle hcancel
          · have hstill := still_eventHandler hidle hcancel hne
            have hstate : (c.eventHandler event).currentState = c.currentState := hstill.2.1
            refine (horderly.still hstill).enter (fun hleftover => ?_) (hstate ▸ hcancel)
            exact absurd (hstate.symm.trans hleftover.1) hidle

/-! ### Handlers of a write -/

/-- What a handler of a write finds when it runs: no other one is queued. -/
theorem Orderly.takeWrite (horderly : Orderly c) {handler : Handler} {rest : List Handler}
    (hposted : c.posted = handler :: rest) (hhandler : LinuxPBS.Upt.ofWrite handler = true) :
    writeHandlers rest = [] ∧ c.writing = none ∧ c.armed .serialWriteDelay = false ∧
      (isDelay handler = false → c.writeInProgress = true ∧ c.writeDelayActive = false) ∧
      (handler = .delayAborted → c.writeInProgress = false ∧ c.writeDelayActive = false) := by
  have hqueued : writeHandlers c.posted = handler :: writeHandlers rest := by
    rw [hposted]
    simp [writeHandlers, hhandler]
  rcases horderly.phase with (hresting | hdelayed | hwriting | hended) | hleftover
  · have hnone := hresting.2.2.2.2
    rw [hqueued] at hnone
    cases hnone
  · obtain ⟨-, -, hwriting, -, ⟨-, hnone⟩ | ⟨harmed, hone⟩⟩ := hdelayed
    · rw [hqueued] at hnone
      cases hnone
    · rw [hqueued] at hone
      obtain ⟨rfl, hrest⟩ := List.cons.inj hone
      exact ⟨hrest, hwriting, harmed, fun hfalse => Bool.noConfusion hfalse,
        fun heq => Handler.noConfusion heq⟩
  · have hnone := hwriting.2.2.2.1
    rw [hqueued] at hnone
    cases hnone
  · obtain ⟨hprogress, hactive, hwriting, harmed, -, error, hone⟩ := hended
    rw [hqueued] at hone
    obtain ⟨rfl, hrest⟩ := List.cons.inj hone
    exact ⟨hrest, hwriting, harmed, fun _ => ⟨hprogress, hactive⟩,
      fun heq => Handler.noConfusion heq⟩
  · obtain ⟨-, -, ⟨hidle, hactive, hwriting, harmed, -⟩, other, hdelay, hone⟩ := hleftover
    rw [hqueued] at hone
    obtain ⟨rfl, hrest⟩ := List.cons.inj hone
    refine ⟨hrest, hwriting, harmed, fun hfalse => ?_, fun _ => ⟨hidle, hactive⟩⟩
    rw [hdelay] at hfalse
    cases hfalse

theorem Orderly.writeEnd (horderly : Orderly c) {error : WriteError} {rest : List Handler}
    (hposted : c.posted = .writeEnd error :: rest) :
    Orderly ((c.taken rest).writeEnd error) := by
  obtain ⟨hqueued, hwriting, harmed, hended, -⟩ := horderly.takeWrite hposted rfl
  obtain ⟨-, hactive⟩ := hended rfl
  have hpopped : Orderly { c with
      posted := rest, writeQueue := c.writeQueue.tail, writeInProgress := false } :=
    horderly.rephase_tail hposted rfl rfl (.inl ⟨rfl, hactive, hwriting, harmed, hqueued⟩)
  have hreset : Orderly { c with
      posted := rest, writeQueue := c.writeQueue.tail, writeInProgress := false,
      writeTimedOut := false } := ⟨hpopped.phase, hpopped.cleanUp, hpopped.cleanUpLast⟩
  unfold Client.writeEnd
  dsimp only
  split_ifs
  · exact hreset.processEvent (by decide) (by decide)
  · exact hpopped.processEvent (by decide) (by decide)
  · exact hpopped.processEvent (by decide) (by decide)

theorem Orderly.delayExpired (horderly : Orderly c) {rest : List Handler}
    (hposted : c.posted = .expired .serialWriteDelay :: rest) :
    Orderly ((c.taken rest).runExpired .serialWriteDelay) := by
  obtain ⟨hqueued, hwriting, harmed, -, -⟩ := horderly.takeWrite hposted rfl
  obtain ⟨hafter, hstate, hphase⟩ := startWrite_spec
    (c := { c with posted := rest, writeDelayActive := false }) rfl hwriting harmed
  exact horderly.rephase_tail hposted hafter hstate (hqueued.symm ▸ hphase)

theorem Orderly.delayAborted (horderly : Orderly c) {rest : List Handler}
    (hposted : c.posted = .delayAborted :: rest) :
    Orderly { c with posted := rest, writeDelayActive := false } := by
  obtain ⟨hqueued, hwriting, harmed, -, hidle⟩ := horderly.takeWrite hposted rfl
  exact horderly.rephase_tail hposted rfl rfl
    (.inl ⟨(hidle rfl).1, rfl, hwriting, harmed, hqueued⟩)

/-- The buffer of a write is given up, or written, and its completion handler queued. -/
theorem Orderly.ended (horderly : Orderly c) {frame : TxFrame} (hwriting : c.writing = some frame)
    (error : WriteError) : Orderly (({ c with writing := none } : Client).post (.writeEnd error)) := by
  rcases horderly.phase with (hresting | hdelayed | hphase | hended) | hleftover
  · exact absurd (hwriting.symm.trans hresting.2.2.1) (Option.some_ne_none _)
  · exact absurd (hwriting.symm.trans hdelayed.2.2.1) (Option.some_ne_none _)
  · obtain ⟨hprogress, hactive, harmed, hqueued, front, -, hfront⟩ := hphase
    have hne : c.writeQueue ≠ [] := by
      intro hnil
      rw [Client.transmission, hnil] at hfront
      cases hfront
    refine ⟨.inl (.inr (.inr (.inr ⟨hprogress, hactive, rfl, harmed, hne, error, ?_⟩))), ?_, ?_⟩
    · show writeHandlers (c.posted ++ [.writeEnd error]) = _
      rw [writeHandlers_append, hqueued]
      rfl
    · intro hin
      refine horderly.cleanUp ((List.mem_append.mp hin).resolve_right fun hnew => ?_)
      cases List.mem_singleton.mp hnew
    · refine horderly.cleanUpLast.append ?_ (fun hin => ?_)
      · exact List.forall_mem_singleton.mpr Handler.noConfusion
      · cases List.mem_singleton.mp hin
  · exact absurd (hwriting.symm.trans hended.2.2.1) (Option.some_ne_none _)
  · exact absurd (hwriting.symm.trans hleftover.2.2.1.2.2.1) (Option.some_ne_none _)

theorem Orderly.cancelPort (horderly : Orderly c) : Orderly c.cancelPort := by
  have hread : Orderly (if c.reading then ({ c with reading := false } : Client).post .readFailed
      else c) := by
    split_ifs
    · exact horderly.still (Still.post (d := { c with reading := false }) (Still.refl c) rfl)
    · exact horderly
  unfold Client.cancelPort
  dsimp only
  split_ifs with hreading hbusy hbusy
  · obtain ⟨frame, hframe⟩ := Option.isSome_iff_exists.mp hbusy
    rw [if_pos hreading] at hread
    exact hread.ended hframe _
  · rw [if_pos hreading] at hread
    exact hread
  · obtain ⟨frame, hframe⟩ := Option.isSome_iff_exists.mp hbusy
    exact horderly.ended hframe _
  · exact horderly

theorem Orderly.handleSerialWriteTimeout (horderly : Orderly c) :
    Orderly c.handleSerialWriteTimeout := by
  unfold Client.handleSerialWriteTimeout
  split_ifs
  · exact horderly
  · have htimedOut : Orderly { c with writeTimedOut := true } :=
      ⟨horderly.phase, horderly.cleanUp, horderly.cleanUpLast⟩
    exact htimedOut.cancelPort

/-! ### Steps -/

/-- A `COMMAND_ENQUEUED` finds nothing left of an earlier wait for the write gap. -/
theorem Orderly.ready (horderly : Orderly c) {rest : List Handler}
    (hposted : c.posted = .event .commandEnqueued :: rest) :
    ¬ (c.taken rest).Leftover := by
  rintro ⟨-, -, hresting, handler, -, hqueued⟩
  have hnone : writeHandlers rest = [] := by
    rcases horderly.phase with hphase | ⟨-, hclear, -⟩
    · rw [hposted] at hphase
      exact (hphase.resting hresting.1).2.2.2.2
    · rw [hposted] at hclear
      exact hclear.1 rfl
  have hone : writeHandlers rest = [handler] := hqueued
  rw [hnone] at hone
  cases hone

theorem Orderly.runHandler (horderly : Orderly c) {handler : Handler} {rest : List Handler}
    (hposted : c.posted = handler :: rest) :
    Orderly ((c.taken rest).runHandler handler) := by
  cases handler with
  | event event =>
      refine (horderly.take hposted rfl).runEvent event ?_ ?_
      · rintro rfl
        exact horderly.ready hposted
      · rintro rfl
        have hlast := horderly.cleanUpLast
        rw [hposted] at hlast
        exact hlast.1 rfl
  | checkCommandQueue =>
      exact (horderly.take hposted rfl).still (Still.refl _).checkCommandQueue
  | enqueueCommandOnIoThread cmd data front =>
      exact (horderly.take hposted rfl).still
        ((Still.refl _).enqueueCommandOnIoThread cmd data front)
  | expired timer =>
      cases timer with
      | ack => exact (horderly.take hposted rfl).still ((Still.refl _).processEvent rfl)
      | rsp => exact (horderly.take hposted rfl).still ((Still.refl _).processEvent rfl)
      | serialWriteDelay => exact horderly.delayExpired hposted
      | serialWrite => exact (horderly.take hposted rfl).handleSerialWriteTimeout
  | delayAborted => exact horderly.delayAborted hposted
  | writeEnd error => exact horderly.writeEnd hposted
  | readEnd data => exact (horderly.take hposted rfl).still ((Still.refl _).readEnd data)
  | readFailed =>
      have htaken := horderly.take hposted rfl
      exact ⟨htaken.phase, htaken.cleanUp, htaken.cleanUpLast⟩

theorem Orderly.expire (horderly : Orderly c) (timer : Timer) (harmed : c.armed timer = true) :
    Orderly (({ c with armed := Function.update c.armed timer false } : Client).post
      (.expired timer)) := by
  by_cases htimer : timer = .serialWriteDelay
  · subst htimer
    have hoff : Function.update c.armed .serialWriteDelay false .serialWriteDelay = false :=
      Function.update_self _ _ _
    have hon : ¬ c.armed .serialWriteDelay = false := by simp [harmed]
    rcases horderly.phase with (hresting | hdelayed | hwriting | hended) | hleftover
    · exact absurd hresting.2.2.2.1 hon
    · obtain ⟨hprogress, hactive, hwriting, hne, ⟨-, hqueued⟩ | ⟨hnot, -⟩⟩ := hdelayed
      · refine ⟨.inl (.inr (.inl ⟨hprogress, hactive, hwriting, hne, .inr ⟨hoff, ?_⟩⟩)), ?_, ?_⟩
        · show writeHandlers (c.posted ++ [.expired .serialWriteDelay]) = _
          rw [writeHandlers_append, hqueued]
          rfl
        · intro hin
          refine horderly.cleanUp ((List.mem_append.mp hin).resolve_right fun hnew => ?_)
          cases List.mem_singleton.mp hnew
        · refine horderly.cleanUpLast.append ?_ (fun hin => ?_)
          · exact List.forall_mem_singleton.mpr Handler.noConfusion
          · cases List.mem_singleton.mp hin
      · exact absurd hnot hon
    · exact absurd hwriting.2.2.1 hon
    · exact absurd hended.2.2.2.1 hon
    · exact absurd hleftover.2.2.1.2.2.2.1 hon
  · refine horderly.still (((Still.refl c).arm htimer false).post ?_)
    cases timer with
    | serialWriteDelay => exact absurd rfl htimer
    | _ => rfl

theorem Orderly.step (horderly : Orderly c) (input : Input) : Orderly (c.step input) := by
  cases input with
  | run =>
      cases hposted : c.posted with
      | nil => simpa only [Client.step, hposted] using horderly
      | cons handler rest =>
          simp only [Client.step, hposted]
          exact horderly.runHandler hposted
  | expire timer =>
      unfold Client.step
      dsimp only
      split_ifs with harmed
      · exact horderly.expire timer harmed
      · exact horderly
  | writeDone success =>
      unfold Client.step
      cases hwriting : c.writing with
      | none => exact horderly
      | some frame =>
          dsimp only
          split_ifs
          · have hended := horderly.ended hwriting .none
            exact ⟨hended.phase, hended.cleanUp, hended.cleanUpLast⟩
          · exact horderly.ended hwriting .other
  | readDone data =>
      unfold Client.step
      dsimp only
      split_ifs
      · exact horderly.still (Still.post (d := { c with reading := false }) (Still.refl c) rfl)
      · exact horderly
  | readFailed =>
      unfold Client.step
      dsimp only
      split_ifs
      · exact horderly.still (Still.post (d := { c with reading := false }) (Still.refl c) rfl)
      · exact horderly
  | enqueue cmd data => exact horderly.still ((Still.refl c).enqueueCommand cmd data)
  | cancelCommand => exact horderly.still ((Still.refl c).processEvent rfl)
  | clock clock => exact ⟨horderly.phase, horderly.cleanUp, horderly.cleanUpLast⟩
  | elapse milliseconds => exact ⟨horderly.phase, horderly.cleanUp, horderly.cleanUpLast⟩

theorem orderly_init (clock : Clock) : Orderly (init clock) := by
  have hempty : Orderly { clock := clock, now := 0, lastSerialReadTime := 0 } :=
    ⟨.inl (.inl ⟨rfl, rfl, rfl, rfl, rfl⟩), fun hin => absurd hin List.not_mem_nil, trivial⟩
  exact hempty.still (((Still.refl _).enqueueCommandOnIoThread _ _ _).enqueueCommandOnIoThread _ _ _)

/-- In every run, whatever happens, the flags, the port and the queued handlers are in a phase
of a write, or nothing is being written. -/
theorem orderly_run (clock : Clock) (inputs : List Input) :
    Orderly (run step (init clock) inputs) :=
  run_keeps (fun _ input horderly => horderly.step input) (orderly_init clock) inputs

end Client

end LinuxPBS.Upt

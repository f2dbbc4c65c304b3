import LinuxPBS.Lcsc.Deductions

/-!
# What a step does to the queue of commands

A command comes from another thread, gets into the queue behind the others and is taken from
its front; and the report on the command under way may put some there, a poll that is
repeated, the flushing of a card, another login.  `Move` lists what a step does to the queue,
whatever the state of the client, and `asked` counts the commands of a kind that have been
asked for and not been taken up.
-/

namespace LinuxPBS.Lcsc

open Machine

/-- The commands that look for a card. -/
def Cmd.polls : Cmd → Bool
  | .getCardId | .cardBalance => true
  | _ => false

def CommandWithData.polls (command : CommandWithData) : Bool := command.cmd.polls

/-- What a queued handler is going to enqueue. -/
def Handler.brings : Handler → Option CommandWithData
  | .enqueueCommandOnIoThread command => some command
  | _ => none

/-- A poll is taken from the queue. -/
def Outcome.takesPoll : Outcome → Bool
  | .dequeued command => command.polls
  | _ => false

/-- The event of a poll is raised. -/
def Outcome.tellsCard : Outcome → Bool
  | .event cmd _ _ => cmd.polls
  | _ => false

/-- The entries that have nothing to do with polls. -/
def Outcome.isPlain (outcome : Outcome) : Prop :=
  outcome.takesPoll = false ∧ outcome.tellsCard = false

/-- How many of some commands are of a kind. -/
def countIn (wanted : Cmd → Bool) (commands : List CommandWithData) : ℕ :=
  commands.countP fun command => wanted command.cmd

theorem countIn_append (wanted : Cmd → Bool) (front back : List CommandWithData) :
    countIn wanted (front ++ back) = countIn wanted front + countIn wanted back :=
  List.countP_append

theorem countIn_cons (wanted : Cmd → Bool) (command : CommandWithData)
    (rest : List CommandWithData) :
    countIn wanted (command :: rest) = countIn wanted rest + (wanted command.cmd).toNat := by
  have hcons := List.countP_cons (p := fun command : CommandWithData => wanted command.cmd)
    (a := command) (l := rest)
  cases hwanted : wanted command.cmd with
  | true => exact hcons.trans (by simp [countIn, hwanted])
  | false => exact hcons.trans (by simp [countIn, hwanted])

theorem countIn_singleton (wanted : Cmd → Bool) (command : CommandWithData) :
    countIn wanted [command] = (wanted command.cmd).toNat := by
  rw [countIn_cons]
  exact Nat.zero_add _

namespace Client

/-- The commands that other threads have handed over. -/
def coming (c : Client) : List CommandWithData := c.posted.filterMap Handler.brings

/-- The commands of a kind that are queued or on their way there. -/
def asked (c : Client) (wanted : Cmd → Bool) : ℕ :=
  countIn wanted c.coming + countIn wanted c.commandQueue

/-! ## Steps that leave the queue alone -/

/-- The second client has the queue of the first one, and nothing has been said about polls. -/
structure Steady (c c' : Client) : Prop where
  queue : c'.commandQueue = c.commandQueue
  flag : c'.continueReadFlag = c.continueReadFlag
  cmd : c'.currentCmd = c.currentCmd
  coming : c'.coming = c.coming
  log : ∃ newer, c'.log = newer ++ c.log ∧ ∀ outcome ∈ newer, outcome.isPlain

variable {c c' c'' : Client} {handler : Handler} {rest : List Handler}

theorem steady_of_same (hqueue : c'.commandQueue = c.commandQueue)
    (hflag : c'.continueReadFlag = c.continueReadFlag) (hcmd : c'.currentCmd = c.currentCmd)
    (hposted : c'.posted = c.posted) (hlog : c'.log = c.log) : Steady c c' :=
  ⟨hqueue, hflag, hcmd, by rw [Client.coming, hposted]; rfl, [], hlog, by simp⟩

theorem Steady.refl (c : Client) : Steady c c := steady_of_same rfl rfl rfl rfl rfl

theorem Steady.trans (hfirst : Steady c c') (hsecond : Steady c' c'') : Steady c c'' := by
  obtain ⟨newer, hnewer, hplain⟩ := hfirst.log
  obtain ⟨newest, hnewest, hplain'⟩ := hsecond.log
  refine ⟨hsecond.queue.trans hfirst.queue, hsecond.flag.trans hfirst.flag,
    hsecond.cmd.trans hfirst.cmd, hsecond.coming.trans hfirst.coming, newest ++ newer, ?_,
    fun outcome hmem => ?_⟩
  · rw [hnewest, hnewer, List.append_assoc]
  · rcases List.mem_append.mp hmem with hmem | hmem
    · exact hplain' outcome hmem
    · exact hplain outcome hmem

theorem steady_note {outcome : Outcome} (hplain : outcome.isPlain) : Steady c (c.note outcome) :=
  ⟨rfl, rfl, rfl, rfl, [outcome], rfl, by simpa using hplain⟩

theorem steady_posts (handlers : List Handler)
    (hother : ∀ handler ∈ handlers, handler.brings = none)
    (hqueue : c'.commandQueue = c.commandQueue)
    (hflag : c'.continueReadFlag = c.continueReadFlag) (hcmd : c'.currentCmd = c.currentCmd)
    (hposted : c'.posted = c.posted ++ handlers) (hlog : c'.log = c.log) : Steady c c' := by
  refine ⟨hqueue, hflag, hcmd, ?_, [], hlog, by simp⟩
  have hnone : handlers.filterMap Handler.brings = [] := List.filterMap_eq_nil_iff.mpr hother
  rw [Client.coming, hposted, List.filterMap_append, hnone, List.append_nil]
  rfl

theorem steady_post (hother : handler.brings = none) : Steady c (c.post handler) :=
  steady_posts [handler] (by simpa using hother) rfl rfl rfl rfl rfl

theorem steady_taken (hposted : c.posted = handler :: rest) (hother : handler.brings = none) :
    Steady c (c.taken rest) := by
  refine ⟨rfl, rfl, rfl, ?_, [], rfl, by simp⟩
  rw [Client.coming, Client.coming, hposted, List.filterMap_cons_none hother]
  rfl

theorem steady_start (timer : Timer) : Steady c (c.start timer) :=
  steady_of_same rfl rfl rfl rfl rfl

theorem steady_cancel (timer : Timer) : Steady c (c.cancel timer) :=
  steady_of_same rfl rfl rfl rfl rfl

theorem steady_enter (next : State) : Steady c (c.enter next) := by
  have hstate : Steady c { c with currentState := next } := steady_of_same rfl rfl rfl rfl rfl
  unfold enter
  simp only
  split
  · exact hstate.trans (steady_post rfl)
  · exact hstate

theorem steady_checkCommandQueue : Steady c c.checkCommandQueue := by
  unfold checkCommandQueue
  split
  · exact .refl c
  · split
    · exact .refl c
    · split
      · exact steady_post rfl
      · exact steady_post rfl

theorem steady_startWrite : Steady c c.startWrite := by
  unfold startWrite
  split
  · exact steady_of_same rfl rfl rfl rfl rfl
  · split
    · exact steady_start _
    · exact ⟨rfl, rfl, rfl, rfl, [_], rfl, by simp [Outcome.isPlain, Outcome.takesPoll,
        Outcome.tellsCard]⟩

theorem steady_enqueueWrite (data : TxFrame) : Steady c (c.enqueueWrite data) := by
  have hqueued : Steady c { c with writeQueue := c.writeQueue ++ [data] } :=
    steady_of_same rfl rfl rfl rfl rfl
  unfold enqueueWrite
  simp only
  split
  · exact hqueued.trans steady_startWrite
  · exact hqueued

theorem steady_prepareAndWrite (command : CommandWithData) :
    Steady c (c.prepareAndWrite command) := by
  have hprepared : Steady c ({ c with count := c.count + 1 }.note
      (.prepared command (c.nextFrame command))) :=
    ⟨rfl, rfl, rfl, rfl, [_], rfl,
      by simp [Outcome.isPlain, Outcome.takesPoll, Outcome.tellsCard]⟩
  exact hprepared.trans (steady_enqueueWrite _)

theorem steady_sendNextChunkCommandData : Steady c c.sendNextChunkCommandData := by
  unfold sendNextChunkCommandData
  split
  · exact .refl c
  · next cmdData others _ =>
      have htaken : Steady c { c with chunkCommandQueue := others } :=
        steady_of_same rfl rfl rfl rfl rfl
      exact htaken.trans (steady_prepareAndWrite cmdData)

theorem steady_writeEnd (error : WriteError) : Steady c (c.writeEnd error) := by
  have hstill : Steady c { c.cancel .serialWrite with
      writeQueue := c.writeQueue.tail
      writeInProgress := false } := steady_of_same rfl rfl rfl rfl rfl
  unfold writeEnd
  simp only
  split
  · exact hstill.trans (steady_posts [.event .writeTimeout]
      (by simp [Handler.brings]) rfl rfl rfl rfl rfl)
  · split
    · exact hstill.trans (steady_post rfl)
    · exact hstill
    · exact hstill.trans (steady_post rfl)

theorem steady_handleSerialWriteTimeout : Steady c c.handleSerialWriteTimeout := by
  unfold handleSerialWriteTimeout
  split
  · exact steady_post rfl
  · rw [cancelPort_eq]
    refine steady_posts _ ?_ rfl rfl rfl (List.append_assoc _ _ _) rfl
    intro handler hmem
    rcases List.mem_append.mp hmem with hread | habort
    · split at hread
      · rw [List.mem_singleton.mp hread]
        rfl
      · exact absurd hread List.not_mem_nil
    · obtain ⟨frame, -, rfl⟩ := List.mem_map.mp habort
      rfl

theorem steady_readEnd (data : List UInt8) (lastWritten : ℕ) :
    Steady c (c.readEnd data lastWritten) := by
  unfold readEnd
  simp only
  split
  · split
    · exact steady_posts [.event .responseReceived] (by simp [Handler.brings]) rfl rfl rfl rfl rfl
    · exact steady_of_same rfl rfl rfl rfl rfl
  · split
    · exact steady_posts [.event .responseReceived] (by simp [Handler.brings]) rfl rfl rfl rfl rfl
    · exact steady_of_same rfl rfl rfl rfl rfl

theorem steady_runExpired (timer : Timer) : Steady c (c.runExpired timer) := by
  cases timer with
  | rsp => exact steady_post rfl
  | serialWriteDelay => exact steady_startWrite
  | serialWrite => exact steady_handleSerialWriteTimeout

/-! ## What a report asks for -/

/-- What the report on a command puts in front of the queue and behind it: no upload, and at most
one poll, that for a poll only while reading is on. -/
structure Asks (c c' : Client) (inFront behind : List CommandWithData) : Prop where
  queue : c'.commandQueue = inFront ++ c.commandQueue ++ behind
  cmd : c'.currentCmd = c.currentCmd
  coming : c'.coming = c.coming
  flag : c'.continueReadFlag = true → c.continueReadFlag = true
  plain : ∀ command ∈ inFront ++ behind, isChunkedCommand command.cmd = false
  front : ∀ command ∈ inFront, command.polls = true → command.cmd = c.currentCmd
  polls : countIn Cmd.polls inFront + countIn Cmd.polls behind ≤
    (c.currentCmd.polls && c.continueReadFlag).toNat
  log : ∃ newer, c'.log = newer ++ c.log ∧ ∀ outcome ∈ newer, outcome.takesPoll = false ∧
    (outcome.tellsCard = true → c.continueReadFlag = true)

variable {inFront behind : List CommandWithData}

theorem Steady.asks (hsteady : Steady c c') : Asks c c' [] [] := by
  obtain ⟨newer, hlog, hplain⟩ := hsteady.log
  refine ⟨?_, hsteady.cmd, hsteady.coming, fun hflag => hsteady.flag ▸ hflag, by simp, by simp,
    Nat.zero_le _, newer, hlog, fun outcome hmem => ⟨(hplain outcome hmem).1, fun htells => ?_⟩⟩
  · rw [hsteady.queue, List.nil_append, List.append_nil]
  · rw [(hplain outcome hmem).2] at htells
    exact absurd htells Bool.false_ne_true

theorem Asks.steady (hasks : Asks c c' inFront behind) (hsteady : Steady c' c'') :
    Asks c c'' inFront behind := by
  obtain ⟨newer, hlog, hnewer⟩ := hasks.log
  obtain ⟨newest, hlog', hplain⟩ := hsteady.log
  refine ⟨hsteady.queue.trans hasks.queue, hsteady.cmd.trans hasks.cmd,
    hsteady.coming.trans hasks.coming, fun hflag => hasks.flag (hsteady.flag ▸ hflag),
    hasks.plain, hasks.front, hasks.polls, newest ++ newer, ?_, fun outcome hmem => ?_⟩
  · rw [hlog', hlog, List.append_assoc]
  · rcases List.mem_append.mp hmem with hmem | hmem
    · refine ⟨(hplain outcome hmem).1, fun htells => ?_⟩
      rw [(hplain outcome hmem).2] at htells
      exact absurd htells Bool.false_ne_true
    · exact hnewer outcome hmem

/-- Something else is done before the report on the same command. -/
theorem Steady.then (hsteady : Steady c c') (hasks : Asks c' c'' inFront behind) :
    Asks c c'' inFront behind := by
  obtain ⟨newer, hlog, hplain⟩ := hsteady.log
  obtain ⟨newest, hlog', hnewest⟩ := hasks.log
  refine ⟨hsteady.queue ▸ hasks.queue, hasks.cmd.trans hsteady.cmd,
    hasks.coming.trans hsteady.coming, fun hflag => hsteady.flag ▸ hasks.flag hflag,
    hasks.plain, hsteady.cmd ▸ hasks.front, ?_, newest ++ newer, ?_, fun outcome hmem => ?_⟩
  · rw [← hsteady.cmd, ← hsteady.flag]
    exact hasks.polls
  · rw [hlog', hlog, List.append_assoc]
  · rcases List.mem_append.mp hmem with hmem | hmem
    · rw [← hsteady.flag]
      exact hnewest outcome hmem
    · refine ⟨(hplain outcome hmem).1, fun htells => ?_⟩
      rw [(hplain outcome hmem).2] at htells
      exact absurd htells Bool.false_ne_true

/-- A command that is no poll is put behind the queue. -/
theorem asks_enqueueCommandOnIoThread {command : CommandWithData}
    (hplain : isChunkedCommand command.cmd = false) (hother : command.polls = false) :
    Asks c (c.enqueueCommandOnIoThread command) [] [command] := by
  have hqueued : Asks c { c with commandQueue := c.commandQueue ++ [command] } [] [command] := by
    refine ⟨rfl, rfl, rfl, id, by simpa using hplain, by simp, ?_, [], rfl, by simp⟩
    rw [countIn_singleton, show Cmd.polls command.cmd = false from hother]
    exact Nat.zero_le _
  exact hqueued.steady steady_checkCommandQueue

/-- A command is put in front of the queue, if it is not there yet. -/
theorem asks_enqueueCommandToFrontOnIoThread {command : CommandWithData}
    (hplain : isChunkedCommand command.cmd = false)
    (hpoll : command.polls = true → command.cmd = c.currentCmd ∧ c.continueReadFlag = true) :
    ∃ inFront, Asks c (c.enqueueCommandToFrontOnIoThread command) inFront [] := by
  unfold enqueueCommandToFrontOnIoThread
  split
  · exact ⟨[], (Steady.refl c).asks⟩
  · refine ⟨[command], Asks.steady ?_ steady_checkCommandQueue⟩
    refine ⟨(List.append_nil _).symm, rfl, rfl, id, by simpa using hplain, ?_, ?_, [], rfl, by simp⟩
    · intro other hmem hpolls
      obtain rfl := List.mem_singleton.mp hmem
      exact (hpoll hpolls).1
    · rw [countIn_singleton]
      cases hpolls : command.polls with
      | false =>
          rw [show Cmd.polls command.cmd = false from hpolls]
          exact Nat.zero_le _
      | true =>
          obtain ⟨hcmd, hflag⟩ := hpoll hpolls
          rw [CommandWithData.polls, hcmd] at hpolls
          rw [hcmd, hpolls, hflag]
          exact Nat.le_refl 1

/-- A poll that has failed is repeated while reading is on, and no event tells of it. -/
theorem asks_handleCmdErrorOrTimeout (msgStatus : CscEvents) :
    ∃ inFront, Asks c (c.handleCmdErrorOrTimeout msgStatus) inFront [] := by
  have hfailed : Steady c (c.note (.failed c.currentCmd msgStatus)) := steady_note ⟨rfl, rfl⟩
  have hrepeat {cmd : Cmd} (hcmd : c.currentCmd = cmd)
      (hplain : isChunkedCommand cmd = false) : ∃ inFront,
      Asks c (if (c.note (.failed c.currentCmd msgStatus)).continueReadFlag then
        (c.note (.failed c.currentCmd msgStatus)).enqueueCommandToFrontOnIoThread ⟨cmd, .null⟩
      else c.note (.failed c.currentCmd msgStatus)) inFront [] := by
    split
    · next hflag =>
        have hpoll : (⟨cmd, .null⟩ : CommandWithData).polls = true →
            cmd = (c.note (.failed c.currentCmd msgStatus)).currentCmd ∧
              (c.note (.failed c.currentCmd msgStatus)).continueReadFlag = true :=
          fun _ => ⟨hcmd.symm, hflag⟩
        obtain ⟨inFront, hasks⟩ := asks_enqueueCommandToFrontOnIoThread hplain hpoll
        exact ⟨inFront, hfailed.then hasks⟩
    · exact ⟨[], hfailed.asks⟩
  unfold handleCmdErrorOrTimeout
  simp only
  split
  · next hcmd => exact hrepeat hcmd rfl
  · next hcmd => exact hrepeat hcmd rfl
  · next hcardId hbalance =>
      refine ⟨[], (hfailed.trans (steady_note ⟨rfl, ?_⟩)).asks⟩
      have hcardId : c.currentCmd ≠ .getCardId := hcardId
      have hbalance : c.currentCmd ≠ .cardBalance := hbalance
      change c.currentCmd.polls = false
      unfold Cmd.polls
      split
      · next hcmd => exact absurd hcmd hcardId
      · next hcmd => exact absurd hcmd hbalance
      · rfl

/-- The answer to a poll: the card is there, or the poll is repeated while reading is on. -/
theorem asks_handlePollResponse (hplain : isChunkedCommand c.currentCmd = false) (result : UInt8)
    {success : Client → Client}
    (hsuccess : c.continueReadFlag = true → ∃ inFront behind,
      Asks c (success { c with continueReadFlag := false }) inFront behind) (status : CscEvents) :
    (∃ inFront behind, Asks c (c.handlePollResponse result success status).1 inFront behind) ∧
      ∀ told, (c.handlePollResponse result success status).2 = some told →
        c.continueReadFlag = true := by
  unfold handlePollResponse
  split
  · exact ⟨⟨[], [], (Steady.refl c).asks⟩, fun told htold => absurd htold (by simp)⟩
  · next hoff =>
      have hflag : c.continueReadFlag = true := by simpa using hoff
      refine ⟨?_, fun _ _ => hflag⟩
      split
      · exact hsuccess hflag
      · have hpoll : (⟨c.currentCmd, .null⟩ : CommandWithData).polls = true →
            c.currentCmd = c.currentCmd ∧ c.continueReadFlag = true := fun _ => ⟨rfl, hflag⟩
        obtain ⟨inFront, hasks⟩ := asks_enqueueCommandToFrontOnIoThread hplain hpoll
        exact ⟨inFront, [], hasks⟩

/-- The card has been found, and its balance is asked for. -/
theorem asks_sendGetCardBalance (hpolls : c.currentCmd.polls = true)
    (hflag : c.continueReadFlag = true) :
    Asks c ({ c with continueReadFlag := false } : Client).sendGetCardBalance []
      [⟨.cardBalance, .null⟩] := by
  have hqueued : Asks c { c with
      continueReadFlag := true
      commandQueue := c.commandQueue ++ [⟨.cardBalance, .null⟩] } [] [⟨.cardBalance, .null⟩] := by
    refine ⟨rfl, rfl, rfl, fun _ => hflag, by simp [isChunkedCommand], by simp, ?_, [], rfl,
      by simp⟩
    rw [hpolls, hflag]
    exact Nat.le_refl 1
  exact hqueued.steady steady_checkCommandQueue

theorem asks_handleChunkResponse (payload : List UInt8) :
    ∃ inFront behind, Asks c (c.handleChunkResponse payload).1 inFront behind := by
  unfold handleChunkResponse
  simp only
  split
  · split
    · refine ⟨[], [], Steady.asks ?_⟩
      exact (steady_note ⟨rfl, rfl⟩).trans (steady_post rfl)
    · refine ⟨[], [], Steady.asks ?_⟩
      exact (steady_post rfl).trans (steady_note ⟨rfl, rfl⟩)
  · have hfailed : Steady c ((c.processEvent .chunkCommandError).processUploadLcscFilesEvent
        .cdfileUploadFailed) := (steady_post rfl).trans (steady_note ⟨rfl, rfl⟩)
    split
    · exact ⟨[], _, hfailed.then (asks_enqueueCommandOnIoThread rfl rfl)⟩
    · exact ⟨[], [], hfailed.asks⟩

/-- What the answer to a command asks for, and a poll is answered with an event only while reading
is on. -/
theorem asks_handleCmdResponse (payload : List UInt8) :
    (∃ inFront behind, Asks c (c.handleCmdResponse payload).1 inFront behind) ∧
      ∀ status, (c.handleCmdResponse payload).2 = some status → c.currentCmd.polls = true →
        c.continueReadFlag = true := by
  have hother {cmd : Cmd} (hcmd : c.currentCmd = cmd) (hnone : cmd.polls = false)
      (hpolls : c.currentCmd.polls = true) : c.continueReadFlag = true := by
    rw [hcmd, hnone] at hpolls
    exact absurd hpolls Bool.false_ne_true
  have hnothing : ∃ inFront behind, Asks c c inFront behind := ⟨[], [], (Steady.refl c).asks⟩
  unfold handleCmdResponse
  simp only
  split
  · next hcmd =>
      refine ⟨?_, fun _ _ => hother hcmd rfl⟩
      split
      · exact ⟨[], _, asks_enqueueCommandOnIoThread rfl rfl⟩
      · exact hnothing
  · next hcmd =>
      have hpolls : c.currentCmd.polls = true := by rw [hcmd]; rfl
      have hplain : isChunkedCommand c.currentCmd = false := by rw [hcmd]; rfl
      obtain ⟨hasks, htold⟩ := asks_handlePollResponse hplain (payload.headD 0)
        (fun hflag => ⟨_, _, asks_sendGetCardBalance hpolls hflag⟩) .sGetIDSuccess
      exact ⟨hasks, fun status hstatus _ => htold status hstatus⟩
  · next hcmd =>
      have hplain : isChunkedCommand c.currentCmd = false := by rw [hcmd]; rfl
      have hended (_ : c.continueReadFlag = true) : ∃ inFront behind,
          Asks c (id { c with continueReadFlag := false }) inFront behind := by
        refine ⟨[], [], ⟨?_, rfl, rfl, ?_, by simp, by simp, Nat.zero_le _, [], rfl, by simp⟩⟩
        · rw [List.nil_append, List.append_nil]
          rfl
        · intro hon
          exact absurd hon Bool.false_ne_true
      obtain ⟨hasks, htold⟩ := asks_handlePollResponse hplain (payload.headD 0) hended
        .sGetBlcSuccess
      exact ⟨hasks, fun status hstatus _ => htold status hstatus⟩
  · next hcmd =>
      refine ⟨?_, fun _ _ => hother hcmd rfl⟩
      split
      · split
        · next seed _ =>
            have hflush : (⟨.cardFlush, .amount seed⟩ : CommandWithData).polls = true →
                Cmd.cardFlush = c.currentCmd ∧ c.continueReadFlag = true :=
              fun hpolls => absurd hpolls Bool.false_ne_true
            obtain ⟨inFront, hasks⟩ := asks_enqueueCommandToFrontOnIoThread rfl hflush
            exact ⟨inFront, [], hasks⟩
        · exact hnothing
      · exact hnothing
  · next hcmd => exact ⟨asks_handleChunkResponse payload, fun _ _ => hother hcmd rfl⟩
  · next hcmd => exact ⟨asks_handleChunkResponse payload, fun _ _ => hother hcmd rfl⟩
  · next hcmd => exact ⟨asks_handleChunkResponse payload, fun _ _ => hother hcmd rfl⟩
  · next hcardId hbalance _ _ _ _ =>
      refine ⟨hnothing, fun _ _ hpolls => ?_⟩
      unfold Cmd.polls at hpolls
      split at hpolls
      · next hcmd => exact absurd hcmd hcardId
      · next hcmd => exact absurd hcmd hbalance
      · exact absurd hpolls Bool.false_ne_true

theorem Asks.note (hasks : Asks c c' inFront behind) {outcome : Outcome}
    (htakes : outcome.takesPoll = false)
    (htells : outcome.tellsCard = true → c.continueReadFlag = true) :
    Asks c (c'.note outcome) inFront behind := by
  obtain ⟨newer, hlog, hnewer⟩ := hasks.log
  refine ⟨hasks.queue, hasks.cmd, hasks.coming, hasks.flag, hasks.plain, hasks.front, hasks.polls,
    outcome :: newer, congrArg (outcome :: ·) hlog, ?_⟩
  intro other hmem
  rcases List.mem_cons.mp hmem with rfl | hmem
  · exact ⟨htakes, htells⟩
  · exact hnewer other hmem

theorem asks_handleReceivedCmd (msgDataBuff : List UInt8) :
    ∃ inFront behind, Asks c (c.handleReceivedCmd msgDataBuff) inFront behind := by
  have hcancel : Steady c (c.cancel .rsp) := steady_cancel .rsp
  cases hcheck : checkResponse c.currentCmd msgDataBuff with
  | error status =>
      obtain ⟨inFront, hasks⟩ := asks_handleCmdErrorOrTimeout (c := c.cancel .rsp) status
      rw [handleReceivedCmd_error hcheck]
      refine ⟨inFront, [], (Asks.steady ?_ (steady_post rfl))⟩
      split
      · exact (hcancel.then hasks).steady (steady_note ⟨rfl, rfl⟩)
      · exact hcancel.then hasks
  | ok msg =>
      obtain ⟨⟨inFront, behind, hasks⟩, htold⟩ :=
        asks_handleCmdResponse (c := c.cancel .rsp) msg.payload
      have hnoted : Asks c (((c.cancel .rsp).handleCmdResponse msg.payload).1.noteStatus
          ((c.cancel .rsp).handleCmdResponse msg.payload).2 msg.payload) inFront behind := by
        unfold noteStatus
        split
        · next status hstatus =>
            refine (hcancel.then hasks).note rfl fun htells => ?_
            refine htold status hstatus ?_
            rw [← hasks.cmd]
            exact htells
        · exact hcancel.then hasks
      rw [handleReceivedCmd_ok hcheck]
      refine ⟨inFront, behind, ?_⟩
      simp only
      split
      · exact hnoted.steady (steady_post rfl)
      · exact hnoted

theorem asks_handleRxBuffer : ∃ inFront behind, Asks c c.handleRxBuffer inFront behind := by
  obtain ⟨inFront, behind, hasks⟩ := asks_handleReceivedCmd c.receiver.rxBuffer
    (c := { c with receiver := { c.receiver with rxBuffer := [] } })
  have hemptied : Steady c { c with receiver := { c.receiver with rxBuffer := [] } } :=
    steady_of_same rfl rfl rfl rfl rfl
  exact ⟨inFront, behind, hemptied.then hasks⟩

theorem asks_failChunks (msgStatus : CscEvents) :
    ∃ inFront behind, Asks c (c.failChunks msgStatus) inFront behind := by
  obtain ⟨inFront, hasks⟩ := asks_handleCmdErrorOrTimeout (c := c) msgStatus
  refine ⟨inFront, [], hasks.steady ?_⟩
  have hcleared : Steady (c.handleCmdErrorOrTimeout msgStatus)
      (c.handleCmdErrorOrTimeout msgStatus).clearChunkCommandQueue :=
    steady_of_same rfl rfl rfl rfl rfl
  exact hcleared.trans (steady_note ⟨rfl, rfl⟩)

/-- While a command is under way its report may ask for something, whatever the event is. -/
theorem asks_eventHandler (hbusy : c.currentState ≠ .idle) (event : Event) :
    ∃ inFront behind, Asks c (c.eventHandler event) inFront behind := by
  have hnothing : ∃ inFront behind, Asks c c inFront behind := ⟨[], [], (Steady.refl c).asks⟩
  have hstopped : Steady c (c.cancel .serialWrite) := steady_cancel .serialWrite
  have hwritten : Steady c ((c.cancel .serialWrite).start .rsp) :=
    hstopped.trans (steady_start .rsp)
  have hfailed (msgStatus : CscEvents) : ∃ inFront behind,
      Asks c (c.handleCmdErrorOrTimeout msgStatus) inFront behind := by
    obtain ⟨inFront, hasks⟩ := asks_handleCmdErrorOrTimeout (c := c) msgStatus
    exact ⟨inFront, [], hasks⟩
  unfold eventHandler
  split
  · next hidle => exact absurd hidle hbusy
  · unfold handleSendingRequestAsyncState
    split_ifs
    · exact ⟨[], [], hwritten.asks⟩
    · obtain ⟨inFront, hasks⟩ := asks_handleCmdErrorOrTimeout (c := c.cancel .serialWrite)
        .sSendcmdfail
      exact ⟨inFront, [], hstopped.then hasks⟩
    · exact hfailed _
    · exact hnothing
  · unfold handleWaitingForResponseState
    split_ifs
    · exact hfailed _
    · exact asks_handleRxBuffer
    · exact hnothing
  · unfold handleSendingChunkCommandRequestAsyncState
    have hchunks (msgStatus : CscEvents) : ∃ inFront behind,
        Asks c ((c.cancel .serialWrite).failChunks msgStatus) inFront behind := by
      obtain ⟨inFront, behind, hasks⟩ := asks_failChunks (c := c.cancel .serialWrite) msgStatus
      exact ⟨inFront, behind, hstopped.then hasks⟩
    split_ifs
    · exact ⟨[], [], hwritten.asks⟩
    · exact hchunks _
    · exact asks_failChunks _
    · exact hchunks _
    · exact hnothing
  · unfold handleWaitingForChunkCommandResponseState
    split_ifs
    · exact asks_failChunks _
    · exact asks_handleRxBuffer
    · exact ⟨[], [], Steady.asks (steady_of_same rfl rfl rfl rfl rfl)⟩
    · exact ⟨[], [], (steady_sendNextChunkCommandData.trans (steady_start .serialWrite)).asks⟩
    · exact hnothing
    · obtain ⟨inFront, hasks⟩ := asks_handleCmdErrorOrTimeout (c := c) .rNotRespCmd
      exact ⟨inFront, [], hasks.steady (steady_of_same rfl rfl rfl rfl rfl)⟩
    · exact hnothing

/-! ## What a step does to the queue -/

/-- A command that has been handed over gets into the queue. -/
def enqueued (c : Client) (command : CommandWithData) (rest : List Handler) : Client :=
  { c with posted := rest, commandQueue := c.commandQueue ++ [command] }

/-- What an input does to the queue of commands. -/
inductive Move (c : Client) : Input → Client → Prop
  | steady {input : Input} {c' : Client} (hsteady : Steady c c') : Move c input c'
  /-- another thread hands a command over; one for continuous reading sets the flag -/
  | send {request : Request} {command : CommandWithData}
      (hcommand : request.command = some command) : Move c (.send request) (c.send request)
  /-- a command that has been handed over gets into the queue -/
  | enqueue {command : CommandWithData} {rest : List Handler} {c' : Client}
      (hposted : c.posted = .enqueueCommandOnIoThread command :: rest)
      (hsteady : Steady (c.enqueued command rest) c') : Move c .run c'
  /-- a command is taken up -/
  | take {event : Event} {command : CommandWithData} {rest : List Handler}
      {others : List CommandWithData} {c' : Client} (hposted : c.posted = .event event :: rest)
      (hqueue : c.commandQueue = command :: others)
      (hsteady : Steady ((c.taken rest).dequeued command others) c') : Move c .run c'
  /-- the report on the command under way asks for something -/
  | ask {event : Event} {rest : List Handler} {inFront behind : List CommandWithData} {c' : Client}
      (hposted : c.posted = .event event :: rest) (hbusy : c.currentState ≠ .idle)
      (hasks : Asks c c' inFront behind) : Move c .run c'
  | stop : Move c .stopRead { c with continueReadFlag := false }

theorem steady_runHandler (hother : handler.brings = none)
    (hevent : ∀ event, handler ≠ .event event) : Steady c (c.runHandler handler) := by
  cases handler with
  | event event => exact absurd rfl (hevent event)
  | checkCommandQueue => exact steady_checkCommandQueue
  | enqueueCommandOnIoThread command => exact absurd hother (by simp [Handler.brings])
  | expired timer => exact steady_runExpired timer
  | writeEnd error => exact steady_writeEnd error
  | readEnd data lastWritten => exact steady_readEnd data lastWritten
  | readFailed => exact steady_of_same rfl rfl rfl rfl rfl

/-- In `IDLE` a command is taken up, if there is one. -/
theorem move_handleIdleState {event : Event} (hposted : c.posted = .event event :: rest)
    {c' : Client} (hsteady : Steady ((c.taken rest).handleIdleState event) c') :
    Move c .run c' := by
  have htaken : Steady c (c.taken rest) := steady_taken hposted rfl
  cases hqueue : c.commandQueue with
  | nil =>
      have hqueue' : (c.taken rest).commandQueue = [] := hqueue
      refine .steady (htaken.trans (Steady.trans ?_ hsteady))
      unfold handleIdleState popFromCommandQueueAndEnqueueWrite
        popFromChunkCommandQueueAndEnqueueWrite
      simp only [hqueue']
      split_ifs
      · exact steady_start _
      · exact steady_start _
      · exact .refl _
  | cons command others =>
      have hqueue' : (c.taken rest).commandQueue = command :: others := hqueue
      unfold handleIdleState at hsteady
      split_ifs at hsteady
      · rw [popFromCommandQueueAndEnqueueWrite_cons hqueue'] at hsteady
        exact .take hposted hqueue (((steady_prepareAndWrite command).trans
          (steady_start .serialWrite)).trans hsteady)
      · refine .take hposted hqueue (Steady.trans ?_ hsteady)
        unfold popFromChunkCommandQueueAndEnqueueWrite
        simp only [hqueue']
        refine Steady.trans ?_ (steady_start _)
        split
        · exact steady_post rfl
        · have hchunks : Steady ((c.taken rest).dequeued command others)
              (((c.taken rest).dequeued command others).withChunks
                (c.chunkCommandQueue ++ chunksOf command)) := steady_of_same rfl rfl rfl rfl rfl
          exact hchunks.trans steady_sendNextChunkCommandData
      · exact .steady (htaken.trans hsteady)

theorem move_runEvent {event : Event} (hposted : c.posted = .event event :: rest) :
    Move c .run ((c.taken rest).runEvent event) := by
  have htaken : Steady c (c.taken rest) := steady_taken hposted rfl
  cases htable : stateTransitionTable (c.taken rest).currentState event with
  | none =>
      rw [runEvent_none htable]
      exact .steady htaken
  | some next =>
      rw [runEvent_some htable]
      by_cases hidle : c.currentState = .idle
      · have hhandler :
            (c.taken rest).eventHandler event = (c.taken rest).handleIdleState event := by
          unfold eventHandler
          rw [show (c.taken rest).currentState = .idle from hidle]
        rw [hhandler]
        exact move_handleIdleState hposted (steady_enter next)
      · obtain ⟨inFront, behind, hasks⟩ := asks_eventHandler (c := c.taken rest) hidle event
        exact .ask hposted hidle (htaken.then (hasks.steady (steady_enter next)))

/-- What every step does to the queue. -/
theorem step_move (c : Client) (input : Input) : Move c input (c.step input) := by
  cases input with
  | run =>
      cases hposted : c.posted with
      | nil =>
          have hsame : c.step .run = c := by simp [step, hposted]
          rw [hsame]
          exact .steady (.refl c)
      | cons handler rest =>
          have hsame : c.step .run = (c.taken rest).runHandler handler := by
            simp [step, hposted, taken]
          rw [hsame]
          cases handler with
          | event event => exact move_runEvent hposted
          | enqueueCommandOnIoThread command => exact .enqueue hposted steady_checkCommandQueue
          | checkCommandQueue | expired timer | writeEnd error | readEnd data lastWritten
          | readFailed =>
              exact .steady ((steady_taken hposted rfl).trans (steady_runHandler rfl (by simp)))
  | expire timer =>
      refine .steady ?_
      change Steady c (if c.armed timer then (c.cancel timer).post (.expired timer) else c)
      split
      · exact (steady_cancel timer).trans (steady_post rfl)
      · exact .refl c
  | writeDone success =>
      cases hwriting : c.writing with
      | nil =>
          have hsame : c.step (.writeDone success) = c := by simp [step, hwriting]
          rw [hsame]
          exact .steady (.refl c)
      | cons frame others =>
          have hended : Steady c { c with writing := others } :=
            steady_of_same rfl rfl rfl rfl rfl
          cases success with
          | true =>
              have hwritten : Steady c ({ c with
                  writing := others
                  lastWritten := frame.number }.note (.written frame)) :=
                ⟨rfl, rfl, rfl, rfl, [_], rfl,
                  by simp [Outcome.isPlain, Outcome.takesPoll, Outcome.tellsCard]⟩
              have hsame : c.step (.writeDone true) = ({ c with
                  writing := others
                  lastWritten := frame.number }.note (.written frame)).post (.writeEnd .none) := by
                simp [step, hwriting]
              rw [hsame]
              exact .steady (hwritten.trans (steady_post rfl))
          | false =>
              have hsame : c.step (.writeDone false) =
                  { c with writing := others }.post (.writeEnd .other) := by
                simp [step, hwriting]
              rw [hsame]
              exact .steady (hended.trans (steady_post rfl))
  | readDone data =>
      refine .steady ?_
      change Steady c (if c.reading then
        { c with reading := false }.post (.readEnd data c.lastWritten) else c)
      split
      · exact steady_posts [.readEnd data c.lastWritten] (by simp [Handler.brings]) rfl rfl rfl rfl
          rfl
      · exact .refl c
  | readFailed =>
      refine .steady ?_
      change Steady c (if c.reading then { c with reading := false }.post .readFailed else c)
      split
      · exact steady_posts [.readFailed] (by simp [Handler.brings]) rfl rfl rfl rfl rfl
      · exact .refl c
  | send request =>
      cases hcommand : request.command with
      | some command => exact .send hcommand
      | none =>
          refine .steady ?_
          have hquiet : request.polls = false := by
            cases request <;> first | rfl | exact absurd hcommand (by simp [Request.command])
          have hsame : c.step (.send request) = c := by
            simp [step, Client.send, hcommand, hquiet]
          rw [hsame]
          exact .refl c
  | stopRead => exact .stop
  | clock epochSeconds => exact .steady (steady_of_same rfl rfl rfl rfl rfl)
  | elapse milliseconds => exact .steady (steady_of_same rfl rfl rfl rfl rfl)

/-! ## How many commands have been asked for -/

theorem Steady.asked (hsteady : Steady c c') (wanted : Cmd → Bool) :
    c'.asked wanted = c.asked wanted := by
  rw [Client.asked, hsteady.coming, hsteady.queue]
  rfl

/-- The report on a command adds what it asks for. -/
theorem Asks.asked (hasks : Asks c c' inFront behind) (wanted : Cmd → Bool) :
    c'.asked wanted = c.asked wanted + (countIn wanted inFront + countIn wanted behind) := by
  rw [Client.asked, hasks.coming, hasks.queue, countIn_append, countIn_append]
  unfold Client.asked
  omega

theorem asked_send {request : Request} {command : CommandWithData}
    (hcommand : request.command = some command) (wanted : Cmd → Bool) :
    (c.send request).asked wanted = c.asked wanted + (wanted command.cmd).toNat := by
  have hcoming : (c.send request).coming = c.coming ++ [command] := by
    unfold Client.send
    simp only [hcommand, Client.coming, post, List.filterMap_append]
    split <;> rfl
  have hqueue : (c.send request).commandQueue = c.commandQueue := by
    unfold Client.send
    simp only [hcommand, post]
    split <;> rfl
  rw [Client.asked, hcoming, hqueue, countIn_append, countIn_singleton]
  unfold Client.asked
  omega

/-- A command moves from the handlers to the queue. -/
theorem asked_enqueued {command : CommandWithData}
    (hposted : c.posted = .enqueueCommandOnIoThread command :: rest) (wanted : Cmd → Bool) :
    (c.enqueued command rest).asked wanted = c.asked wanted := by
  have hcoming : c.coming = command :: (c.taken rest).coming := by
    rw [Client.coming, hposted]
    rfl
  have hqueue : (c.enqueued command rest).asked wanted =
      countIn wanted (c.taken rest).coming + countIn wanted (c.commandQueue ++ [command]) := rfl
  rw [hqueue, countIn_append, countIn_singleton, Client.asked, hcoming, countIn_cons]
  omega

/-- A command is taken from the queue. -/
theorem asked_dequeued {event : Event} {command : CommandWithData}
    {others : List CommandWithData} (hposted : c.posted = .event event :: rest)
    (hqueue : c.commandQueue = command :: others) (wanted : Cmd → Bool) :
    ((c.taken rest).dequeued command others).asked wanted + (wanted command.cmd).toNat =
      c.asked wanted := by
  have hcoming : c.coming = (c.taken rest).coming := by
    rw [Client.coming, hposted]
    rfl
  rw [Client.asked, Client.asked, hcoming, hqueue, countIn_cons]
  exact Nat.add_assoc _ _ _

end Client

end LinuxPBS.Lcsc

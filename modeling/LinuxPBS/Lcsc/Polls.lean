import LinuxPBS.Lcsc.Moves

/-!
# Polling for a card

A poll, `GET_CARD_ID` or `CARD_BALANCE`, that finds no card goes to the front of the queue
again as long as the flag of the continuous reading is set, in front of a deduction that may
be waiting there.  `FnLCSCReaderStopRead` clears the flag and takes nothing back.  Only the
front is looked at for a poll that is queued already, and only by a poll that repeats itself,
so that every call of `FnSendGetCardIDCmd` adds one (`not_polls`).

That no turn makes the polls more (`requested_turn`) takes an orderly client, and no time-out
behind an answer that has been handled, for that repeats a poll that is over.
-/

namespace LinuxPBS.Lcsc

open Machine

/-- How many polls have been taken from the queue. -/
def pollsTaken (log : List Outcome) : ℕ := log.countP Outcome.takesPoll

theorem pollsTaken_of_plain {newer : List Outcome}
    (hplain : ∀ outcome ∈ newer, outcome.takesPoll = false) : pollsTaken newer = 0 :=
  List.countP_eq_zero.mpr fun outcome hmem => by rw [hplain outcome hmem]; decide

/-- The requests for continuous reading are those that send a poll. -/
theorem Request.polls_of_command {request : Request} {command : CommandWithData}
    (hcommand : request.command = some command) : command.cmd.polls = request.polls := by
  cases request with
  | uploadCfgFile fileData | uploadCilFile fileData | uploadBlFile fileData =>
      simp only [Request.command] at hcommand
      split at hcommand
      · obtain rfl := Option.some.inj hcommand
        rfl
      · exact absurd hcommand (by simp)
  | _ =>
      obtain rfl := Option.some.inj hcommand
      rfl

namespace Client

/-- A poll is outstanding: its answer has not been handled. -/
def polling (c : Client) : Bool :=
  decide (c.currentState ≠ .idle) && c.currentCmd.polls && (settles c.posted).isEmpty

/-- All polls that have been asked for and not been answered. -/
def pollsRequested (c : Client) : ℕ := c.asked Cmd.polls + c.polling.toNat

variable {c c' c'' : Client} {rest : List Handler} {inFront behind : List CommandWithData}

/-! ## Reading is stopped -/

/-- Nothing is told about a card, and the polls that are taken up had been asked for before. -/
structure Quiet (c c' : Client) : Prop where
  off : c'.continueReadFlag = false
  log : ∃ newer, c'.log = newer ++ c.log ∧ (∀ outcome ∈ newer, outcome.tellsCard = false) ∧
    pollsTaken newer + c'.asked Cmd.polls ≤ c.asked Cmd.polls

theorem Quiet.trans (hfirst : Quiet c c') (hsecond : Quiet c' c'') : Quiet c c'' := by
  obtain ⟨newer, hnewer, hsilent, htaken⟩ := hfirst.log
  obtain ⟨newest, hnewest, hsilent', htaken'⟩ := hsecond.log
  refine ⟨hsecond.off, newest ++ newer, ?_, fun outcome hmem => ?_, ?_⟩
  · rw [hnewest, hnewer, List.append_assoc]
  · rcases List.mem_append.mp hmem with hmem | hmem
    · exact hsilent' outcome hmem
    · exact hsilent outcome hmem
  · have hsum : pollsTaken (newest ++ newer) = pollsTaken newest + pollsTaken newer :=
      List.countP_append
    omega

/-- What the report on a command adds is a poll at most, and that for a poll while reading is on. -/
theorem Asks.asked_le (hasks : Asks c c' inFront behind) :
    c'.asked Cmd.polls ≤ c.asked Cmd.polls + (c.currentCmd.polls && c.continueReadFlag).toNat := by
  have hpolls := hasks.polls
  have hasked := hasks.asked Cmd.polls
  omega

/-- With the flag off a step tells nothing about a card, and adds no poll. -/
theorem quiet_step (hoff : c.continueReadFlag = false) {input : Input}
    (hstarts : ∀ request, input = .send request → request.polls = false) :
    Quiet c (c.step input) := by
  have hsteadily {d d' : Client} (hsteady : Steady d d') (hoff : d.continueReadFlag = false) :
      Quiet d d' := by
    obtain ⟨newer, hlog, hplain⟩ := hsteady.log
    refine ⟨hsteady.flag.trans hoff, newer, hlog, fun outcome hmem => (hplain outcome hmem).2, ?_⟩
    rw [pollsTaken_of_plain fun outcome hmem => (hplain outcome hmem).1, hsteady.asked,
      Nat.zero_add]
  cases step_move c input with
  | steady hsteady => exact hsteadily hsteady hoff
  | @send request command hcommand =>
      have hquiet := hstarts request rfl
      refine ⟨?_, [], ?_, by simp, ?_⟩
      · unfold step Client.send
        simp [hcommand, hquiet, hoff, post]
      · unfold step Client.send
        simp [hcommand, hquiet, post]
      · change 0 + (c.send request).asked Cmd.polls ≤ c.asked Cmd.polls
        rw [asked_send hcommand, Request.polls_of_command hcommand, hquiet]
        exact (Nat.zero_add _).le
  | @enqueue command rest _ hposted hsteady =>
      have hstep : Quiet c (c.enqueued command rest) :=
        ⟨hoff, [], rfl, by simp, by rw [asked_enqueued hposted]; exact (Nat.zero_add _).le⟩
      exact hstep.trans (hsteadily hsteady hoff)
  | @take event command rest others _ hposted hqueue hsteady =>
      have hone : pollsTaken [.dequeued command] = command.cmd.polls.toNat := by
        cases hpolls : command.cmd.polls <;>
          simp [pollsTaken, Outcome.takesPoll, CommandWithData.polls, hpolls]
      have hstep : Quiet c ((c.taken rest).dequeued command others) := by
        refine ⟨hoff, [.dequeued command], rfl, by simp [Outcome.tellsCard], ?_⟩
        rw [hone, Nat.add_comm, ← asked_dequeued hposted hqueue]
      exact hstep.trans (hsteadily hsteady hoff)
  | ask hposted hbusy hasks =>
      obtain ⟨newer, hlog, hnewer⟩ := hasks.log
      refine ⟨?_, newer, hlog, fun outcome hmem => ?_, ?_⟩
      · rw [Bool.eq_false_iff]
        intro hon
        rw [hasks.flag hon] at hoff
        exact absurd hoff (by decide)
      · rw [Bool.eq_false_iff]
        intro htells
        rw [(hnewer outcome hmem).2 htells] at hoff
        exact absurd hoff (by decide)
      · have hwaiting := hasks.asked_le
        rw [hoff, Bool.and_false] at hwaiting
        rw [pollsTaken_of_plain fun outcome hmem => (hnewer outcome hmem).1, Nat.zero_add]
        exact hwaiting
  | stop => exact ⟨rfl, [], rfl, by simp, (Nat.zero_add _).le⟩

/-- As long as no poll is asked for, a client that has stopped reading stays quiet. -/
theorem quiet_run (hoff : c.continueReadFlag = false) {inputs : List Input}
    (hstarts : ∀ request, .send request ∈ inputs → request.polls = false) :
    Quiet c (run step c inputs) := by
  induction inputs generalizing c with
  | nil => exact ⟨hoff, [], rfl, by simp, (Nat.zero_add _).le⟩
  | cons input inputs ih =>
      have hstep := quiet_step hoff fun request hinput =>
        hstarts request (hinput ▸ List.mem_cons_self)
      exact hstep.trans (ih hstep.off fun request hmem =>
        hstarts request (List.mem_cons_of_mem _ hmem))

/-! ## Overtaking -/

/-- The poll that is under way is repeated, for reading is on. -/
structure Repeats (c : Client) (command : CommandWithData) : Prop where
  busy : c.currentState ≠ .idle
  cmd : command.cmd = c.currentCmd
  on : c.continueReadFlag = true

/-- The queued commands keep their order; the front may be taken, and a poll is put in front of the
others only if it is repeated. -/
def KeepsTurns (c c' : Client) : Prop :=
  ∃ front rest inFront behind, c.commandQueue = front ++ rest ∧
    c'.commandQueue = inFront ++ rest ++ behind ∧
    (front = [] ∨ inFront = [] ∧ ∃ command newer, front = [command] ∧
      c'.log = newer ++ .dequeued command :: c.log) ∧
    ∀ command ∈ inFront, command.polls = true → Repeats c command

theorem keepsTurns_step (c : Client) (input : Input) : KeepsTurns c (c.step input) := by
  have hqueued {c c' : Client} {behind : List CommandWithData}
      (hqueue : c'.commandQueue = c.commandQueue ++ behind) : KeepsTurns c c' :=
    ⟨[], c.commandQueue, [], behind, rfl, hqueue, .inl rfl, by simp⟩
  have hsame {c c' : Client} (hqueue : c'.commandQueue = c.commandQueue) : KeepsTurns c c' :=
    hqueued (hqueue.trans (List.append_nil _).symm)
  cases step_move c input with
  | steady hsteady => exact hsame hsteady.queue
  | @send request command hcommand =>
      apply hsame
      unfold step Client.send
      simp only [hcommand, post]
      split <;> rfl
  | enqueue hposted hsteady => exact hqueued hsteady.queue
  | @take event command rest others _ hposted hqueue hsteady =>
      obtain ⟨newer, hlog, -⟩ := hsteady.log
      refine ⟨[command], others, [], [], hqueue, ?_, .inr ⟨rfl, command, newer, rfl, hlog⟩,
        by simp⟩
      rw [hsteady.queue, List.nil_append, List.append_nil]
      rfl
  | @ask event rest inFront behind _ hposted hbusy hasks =>
      refine ⟨[], c.commandQueue, inFront, behind, rfl, hasks.queue, .inl rfl, ?_⟩
      intro command hmem hpolls
      have hsome : 0 < countIn Cmd.polls inFront := List.countP_pos_iff.mpr ⟨command, hmem, hpolls⟩
      have hadded := hasks.polls
      refine ⟨hbusy, hasks.front command hmem hpolls, ?_⟩
      cases hflag : c.continueReadFlag with
      | true => rfl
      | false =>
          rw [hflag, Bool.and_false, Bool.toNat_false] at hadded
          omega
  | stop => exact hsame rfl

/-! ## How many polls there are -/

/-- No time-out is run for a poll whose answer has been handled, and no frame is left behind a
command that has failed. -/
def Punctual (c : Client) (input : Input) : Prop :=
  Patient c input ∧
    match input, c.posted with
    | .run, .event .responseTimeout :: rest =>
        c.currentState.phase = .waiting → c.currentCmd.polls = true → settles rest = []
    | _, _ => True

/-- Another poll is asked for from outside only when there is none. -/
def Alone (c : Client) (input : Input) : Prop :=
  Punctual c input ∧
    ∀ request, input = .send request → request.polls = true → c.pollsRequested = 0

theorem polls_of_chunked {cmd : Cmd} (hchunk : isChunkedCommand cmd = true) :
    cmd.polls = false := by
  cases cmd <;> first | rfl | exact absurd hchunk (by decide)

theorem polling_enter_idle (c : Client) : (c.enter .idle).polling = false := by
  simp [polling, enter_state]

/-- While a poll is sent, and until its answer has been handled, it is outstanding. -/
theorem polling_of_busy (hbusy : c.currentState ≠ .idle) (hnone : settles c.posted = []) :
    c.polling = c.currentCmd.polls := by
  simp [polling, hbusy, hnone]

/-- The answer has been handled. -/
theorem polling_of_settled {event : Event} (hmem : .event event ∈ c.posted)
    (hkind : event.kind = .settle) : c.polling = false := by
  have hsome : settles c.posted ≠ [] := List.ne_nil_of_mem (mem_settles.mpr ⟨hmem, hkind⟩)
  simp [polling, hsome]

theorem polling_le_cmd (c : Client) : c.polling.toNat ≤ c.currentCmd.polls.toNat := by
  apply Bool.toNat_le_toNat
  intro hpolling
  exact Bool.and_elim_right (Bool.and_elim_left hpolling)

theorem Steady.requested_le (hsteady : Steady c c')
    (hpolling : c'.polling = true → c.polling = true) :
    c'.pollsRequested ≤ c.pollsRequested := by
  rw [pollsRequested, hsteady.asked]
  exact Nat.add_le_add_left (Bool.toNat_le_toNat hpolling) _

/-- A poll that is done with is replaced by one at most. -/
theorem Asks.requested_le (hasks : Asks c c' inFront behind)
    (hnow : c.currentCmd.polls = true → c.polling = true) (hdone : c'.polling = false) :
    c'.pollsRequested ≤ c.pollsRequested := by
  have hwaiting := hasks.asked_le
  have hone : (c.currentCmd.polls && c.continueReadFlag).toNat ≤ c.polling.toNat := by
    apply Bool.toNat_le_toNat
    intro hboth
    exact hnow (Bool.and_elim_left hboth)
  rw [pollsRequested, pollsRequested, hdone, Bool.toNat_false]
  omega

/-- A command that is taken up is outstanding instead of queued. -/
theorem requested_take {event : Event} {command : CommandWithData}
    {others : List CommandWithData} (hposted : c.posted = .event event :: rest)
    (hqueue : c.commandQueue = command :: others)
    (hsteady : Steady ((c.taken rest).dequeued command others) c') :
    c'.pollsRequested ≤ c.pollsRequested := by
  have hwaiting := asked_dequeued hposted hqueue Cmd.polls
  have hpolling := polling_le_cmd c'
  have hcmd : ((c.taken rest).dequeued command others).currentCmd.polls = command.cmd.polls := rfl
  rw [hsteady.cmd, hcmd] at hpolling
  rw [pollsRequested, pollsRequested, hsteady.asked]
  omega

/-- A turn replaces a poll by one at most. -/
theorem requested_turn (horderly : Orderly c) (hsettling : Settling c) {event : Event}
    (hposted : c.posted = .event event :: rest) (hpunctual : Punctual c .run)
    (hturn : Turn c rest event c') : c'.pollsRequested ≤ c.pollsRequested := by
  have htaken : Steady c (c.taken rest) := steady_taken hposted rfl
  have hsorted := horderly.sorted
  have hsuited := horderly.suited
  have hnosettle (hkind : event.kind ≠ .settle) (hnone : settles rest = []) :
      settles c.posted = [] := by
    have hbetween : Between c (c.taken rest) := between_taken hposted hkind
    exact hbetween.settles.symm.trans hnone
  -- while a frame is sent, no event that ends a wait is queued
  have hsending (hphase : c.currentState.phase = .sending) : settles c.posted = [] := by
    rw [hphase] at hsorted
    exact settles_eq_nil hsorted.content.2.2
  have hbusy {state : State} (hstate : c.currentState = state) (hstate' : state ≠ .idle) :
      c.currentState ≠ .idle := hstate ▸ hstate'
  -- an upload is no poll
  have hchunked (hchunk : isChunkedCommand c.currentCmd = true) : c.currentCmd.polls = true →
      c.polling = true := by
    intro hpolls
    rw [polls_of_chunked hchunk] at hpolls
    exact absurd hpolls Bool.false_ne_true
  have hidle {d : Client} (hpolling : (d.enter .idle).polling = true) : c.polling = true := by
    rw [polling_enter_idle] at hpolling
    exact absurd hpolling Bool.false_ne_true
  cases hturn with
  | ignored hnone =>
      refine htaken.requested_le fun hpolling => ?_
      rcases hsettling.ignored horderly hposted hnone with hstate | hsettles
      · have hrest : (c.taken rest).polling = false := by simp [polling, taken, hstate]
        rw [hrest] at hpolling
        exact absurd hpolling Bool.false_ne_true
      · rw [polling, hsettles] at hpolling
        exact hpolling
  | @launch command others hstate hqueue =>
      apply requested_take hposted hqueue
      exact ((steady_prepareAndWrite command).trans (steady_start _)).trans (steady_enter _)
  | @launchChunks command chunk others chunks hstate hqueue =>
      apply requested_take hposted hqueue
      have hchunks : Steady ((c.taken rest).dequeued command others)
          (((c.taken rest).dequeued command others).withChunks chunks) :=
        steady_of_same rfl rfl rfl rfl rfl
      exact ((hchunks.trans (steady_prepareAndWrite chunk)).trans (steady_start _)).trans
        (steady_enter _)
  | complete hphase =>
      have hsteady : Steady c ((((c.taken rest).cancel .serialWrite).start .rsp).enter
          (waitingState c.currentState)) :=
        ((htaken.trans (steady_cancel _)).trans (steady_start _)).trans (steady_enter _)
      refine hsteady.requested_le fun hpolling => ?_
      have hnotIdle : c.currentState ≠ .idle := by
        intro hidle
        rw [hidle] at hphase
        exact absurd hphase (by decide)
      rw [polling_of_busy hnotIdle (hsending hphase), ← hsteady.cmd]
      exact Bool.and_elim_right (Bool.and_elim_left hpolling)
  | fail hstate =>
      have hphase : c.currentState.phase = .sending := by rw [hstate]; rfl
      obtain ⟨inFront, hasks⟩ := asks_handleCmdErrorOrTimeout (c := c.taken rest) .sSendcmdfail
      refine (htaken.then (hasks.steady (steady_enter .idle))).requested_le (fun hpolls => ?_)
        (polling_enter_idle _)
      rw [polling_of_busy (hbusy hstate (by decide)) (hsending hphase)]
      exact hpolls
  | failChunks hstate =>
      rw [hstate] at hsuited
      obtain ⟨inFront, behind, hasks⟩ := asks_failChunks (c := c.taken rest) .sSendcmdfail
      exact (htaken.then (hasks.steady (steady_enter .idle))).requested_le (hchunked hsuited)
        (polling_enter_idle _)
  | timeout hstate =>
      obtain ⟨inFront, hasks⟩ := asks_handleCmdErrorOrTimeout (c := c.taken rest) .sTimeout
      refine (htaken.then (hasks.steady (steady_enter .idle))).requested_le (fun hpolls => ?_)
        (polling_enter_idle _)
      have hrule := hpunctual.2
      rw [hposted] at hrule
      have hrest := hrule (by rw [hstate]; rfl) hpolls
      rw [polling_of_busy (hbusy hstate (by decide)) (hnosettle (by decide) hrest)]
      exact hpolls
  | timeoutChunks hstate =>
      rw [hstate] at hsuited
      obtain ⟨inFront, behind, hasks⟩ := asks_failChunks (c := c.taken rest) .sTimeout
      exact (htaken.then (hasks.steady (steady_enter .idle))).requested_le (hchunked hsuited)
        (polling_enter_idle _)
  | respond hwaiting =>
      have hnotIdle : (c.taken rest).currentState ≠ .idle := by
        intro hidle
        rw [show c.currentState = .idle from hidle] at hwaiting
        exact absurd hwaiting (by decide)
      rw [hwaiting, kinds_of_posted hposted] at hsorted
      have hnone : .settle ∉ c.kinds := by
        rw [kinds_of_posted hposted, List.mem_cons, not_or]
        exact ⟨by decide, hsorted.head (by simp [Ordered, Handler.kind, Event.kind])⟩
      obtain ⟨inFront, behind, hasks⟩ := asks_handleRxBuffer (c := c.taken rest)
      obtain ⟨settle, d, hends, -, hsame⟩ := handleRxBuffer_eq hnotIdle
      have hsettle : .event settle ∈ (c.taken rest).handleRxBuffer.posted := by
        rw [hsame]
        exact List.mem_append_right _ (List.mem_singleton.mpr rfl)
      refine (htaken.then hasks).requested_le (fun hpolls => ?_)
        (polling_of_settled hsettle (Event.kind_of_endsWait hends))
      have hcbusy : c.currentState ≠ .idle := hnotIdle
      rw [polling_of_busy hcbusy (settles_eq_nil hnone)]
      exact hpolls
  | finish hstate hevent => exact (htaken.trans (steady_enter .idle)).requested_le hidle
  | completeChunks hstate => exact (htaken.trans (steady_enter .idle)).requested_le hidle
  | rejectChunks hstate =>
      have hcleared : Steady (c.taken rest) (c.taken rest).clearChunkCommandQueue :=
        steady_of_same rfl rfl rfl rfl rfl
      exact ((htaken.trans hcleared).trans (steady_enter .idle)).requested_le hidle
  | breakChunks hstate =>
      rw [hstate] at hsuited
      obtain ⟨inFront, hasks⟩ := asks_handleCmdErrorOrTimeout (c := c.taken rest) .rNotRespCmd
      have hcleared : Steady ((c.taken rest).handleCmdErrorOrTimeout .rNotRespCmd)
          ((c.taken rest).handleCmdErrorOrTimeout .rNotRespCmd).clearChunkCommandQueue :=
        steady_of_same rfl rfl rfl rfl rfl
      exact (htaken.then (hasks.steady (hcleared.trans (steady_enter .idle)))).requested_le
        (hchunked hsuited) (polling_enter_idle _)
  | @next chunk chunks hstate =>
      rw [hstate] at hsuited
      have hchunks : Steady (c.taken rest) ((c.taken rest).withChunks chunks) :=
        steady_of_same rfl rfl rfl rfl rfl
      have hsteady := (((htaken.trans hchunks).trans (steady_prepareAndWrite chunk)).trans
        (steady_start .serialWrite)).trans (steady_enter .sendingChunkCommandRequestAsync)
      refine hsteady.requested_le fun hpolling => hchunked hsuited ?_
      rw [← hsteady.cmd]
      exact Bool.and_elim_right (Bool.and_elim_left hpolling)
  | nextNone hstate =>
      rw [hstate] at hsuited
      have hsteady := (htaken.trans (steady_start .serialWrite)).trans
        (steady_enter .sendingChunkCommandRequestAsync)
      refine hsteady.requested_le fun hpolling => hchunked hsuited ?_
      rw [← hsteady.cmd]
      exact Bool.and_elim_right (Bool.and_elim_left hpolling)

/-- Only a request from outside makes the polls more. -/
theorem requested_step (horderly : Orderly c) (hsettling : Settling c) {input : Input}
    (hpunctual : Punctual c input)
    (hquiet : ∀ request, input = .send request → request.polls = false) :
    (c.step input).pollsRequested ≤ c.pollsRequested := by
  by_cases hevent : ∃ event rest, input = .run ∧ c.posted = .event event :: rest
  · obtain ⟨event, rest, rfl, hposted⟩ := hevent
    have hsame : c.step .run = (c.taken rest).runEvent event := by
      simp [step, hposted, taken, runHandler]
    rw [hsame]
    exact requested_turn horderly hsettling hposted hpunctual (horderly.turn hposted)
  · have hbetween : Between c (c.step input) := by
      refine between_step fun hrun event hhead => hevent ?_
      obtain ⟨rest, hposted⟩ := List.head?_eq_some_iff.mp hhead
      exact ⟨event, rest, hrun, hposted⟩
    have hpolling : (c.step input).polling = c.polling := by
      rw [polling, hbetween.state, hbetween.cmd, hbetween.settles]
      rfl
    have hwaiting : (c.step input).asked Cmd.polls ≤ c.asked Cmd.polls := by
      cases step_move c input with
      | steady hsteady => exact (hsteady.asked _).le
      | @send request command hcommand =>
          have hnone := (Request.polls_of_command hcommand).trans (hquiet request rfl)
          exact ((asked_send hcommand _).trans (by rw [hnone]; rfl)).le
      | enqueue hposted hsteady => exact ((hsteady.asked _).trans (asked_enqueued hposted _)).le
      | take hposted => exact absurd ⟨_, _, rfl, hposted⟩ hevent
      | ask hposted => exact absurd ⟨_, _, rfl, hposted⟩ hevent
      | stop => exact Nat.le_refl _
    rw [pollsRequested, hpolling]
    exact Nat.add_le_add_right hwaiting _

/-- A poll that is asked for when there is none is the only one. -/
theorem requested_send {request : Request} (hpolls : request.polls = true)
    (hnone : c.pollsRequested = 0) : (c.send request).pollsRequested ≤ 1 := by
  have hbetween := between_send c request
  have hpolling : (c.send request).polling = c.polling := by
    rw [polling, hbetween.state, hbetween.cmd, hbetween.settles]
    rfl
  cases hcommand : request.command with
  | none =>
      have hquiet : request.polls = false := by
        cases request <;> first | rfl | exact absurd hcommand (by simp [Request.command])
      exact absurd (hquiet.symm.trans hpolls) Bool.false_ne_true
  | some command =>
      have hwaiting := asked_send (c := c) hcommand Cmd.polls
      rw [Request.polls_of_command hcommand] at hwaiting
      have hone := Bool.toNat_le request.polls
      rw [pollsRequested] at hnone ⊢
      rw [hpolling]
      omega

/-- Polls that are asked for one at a time stay so; the one that is asked for before reading is
stopped may still be taken up, and is neither repeated nor told about; and a queued command is
overtaken by a poll only if that is repeated while reading is on. -/
theorem polls_run (evp : Evp) (epochSeconds : UInt32) (inputs : List Input) :
    (Meets step Alone (init evp epochSeconds) inputs →
      (run step (init evp epochSeconds) inputs).pollsRequested ≤ 1) ∧
    (∀ later : List Input, (∀ request, .send request ∈ later → request.polls = false) →
      Quiet ((run step (init evp epochSeconds) inputs).step .stopRead)
        (run step ((run step (init evp epochSeconds) inputs).step .stopRead) later)) ∧
    ∀ input, KeepsTurns (run step (init evp epochSeconds) inputs)
      ((run step (init evp epochSeconds) inputs).step input) := by
  refine ⟨fun halone => ?_, fun later hlater => quiet_run rfl hlater, keepsTurns_step _⟩
  have hstep : ∀ (c : Client) (input : Input),
      (Orderly c ∧ Settling c) ∧ c.pollsRequested ≤ 1 → Alone c input →
        (Orderly (c.step input) ∧ Settling (c.step input)) ∧ (c.step input).pollsRequested ≤ 1 := by
    rintro c input ⟨⟨horderly, hsettling⟩, hone⟩ ⟨hpunctual, hnone⟩
    refine ⟨⟨horderly.step hpunctual.1, hsettling.step horderly input⟩, ?_⟩
    by_cases hstarts : ∃ request, input = .send request ∧ request.polls = true
    · obtain ⟨request, rfl, hpolls⟩ := hstarts
      exact requested_send hpolls (hnone request rfl hpolls)
    · refine (requested_step horderly hsettling hpunctual fun request hinput => ?_).trans hone
      rw [Bool.eq_false_iff]
      exact fun hpolls => hstarts ⟨request, hinput, hpolls⟩
  refine (run_invariant hstep ⟨⟨orderly_init evp epochSeconds,
    settling_init evp epochSeconds⟩, ?_⟩ halone).2
  rw [init_eq]
  exact Nat.zero_le _

/-- The write of the first command fails, and the client is idle. -/
def loginFailed : List Input := runs 1 ++ .writeDone false :: runs 3

/-- A poll is asked for and gets into the queue. -/
def pollQueued : List Input := loginFailed ++ .send .getCardIdCmd :: runs 1

/-- The poll is written, and a deduction is queued behind it. -/
def deductionQueued : List Input :=
  pollQueued ++ runs 1 ++ .writeDone true :: runs 2 ++ .send (.cardDeduct 500) :: runs 1

/-- A poll is outstanding and another one queued; one that is queued when reading is stopped is
sent; and a deduction is overtaken by a poll that has not been answered. -/
theorem not_polls :
    (countIn Cmd.polls (run step (init plainEvp 0)
        (pollQueued ++ .send .getCardIdCmd :: runs 2)).commandQueue = 1 ∧
      (run step (init plainEvp 0)
        (pollQueued ++ .send .getCardIdCmd :: runs 2)).polling = true) ∧
    ((run step (init plainEvp 0) pollQueued).polling = false ∧
      (run step (init plainEvp 0) (pollQueued ++ [.stopRead, .run])).polling = true) ∧
    ((run step (init plainEvp 0) deductionQueued).commandQueue = [⟨.cardDeduct, .amount 500⟩] ∧
      (run step (init plainEvp 0) (deductionQueued ++ .expire .rsp :: runs 2)).commandQueue =
        [⟨.getCardId, .null⟩, ⟨.cardDeduct, .amount 500⟩]) := by
  decide +kernel

end Client

end LinuxPBS.Lcsc

import LinuxPBS.Lcsc.Between

/-!
# The frame that is sent to the card reader is the current command's

A write timer that runs out while the frame waits for the silence of the line reports the
command as failed, but the frame stays in `writeQueue_` and the delay goes on: the frame is
handed to the port later, in `IDLE` or under the next command (`not_frameSound`).

`frameSound_of_patient` is about the runs in which that does not happen.
-/

namespace LinuxPBS.Lcsc

open Machine

namespace Client

/-- At most one frame is queued and at most one is being written, which are those of the command
or the chunk taken up last; the client waits for a response only when that frame has been written;
and no frame has been handed to the port or written for a command that had failed. -/
structure FrameSound (c : Client) : Prop where
  queue : c.writeQueue = [] ∨ ∃ command frame, c.writeQueue = [frame] ∧
    lastPrepared c.log = some (command, frame) ∧
    (isChunkedCommand c.currentCmd = false → command.cmd = c.currentCmd)
  writing : c.writing.length ≤ 1
  waiting : c.currentState.phase = .waiting →
    LastWritten c.log ∧ ∃ command frame, lastPrepared c.log = some (command, frame) ∧
      (isChunkedCommand c.currentCmd = false → command.cmd = c.currentCmd)
  sent : SentLast c.log

/-- The frame prepared last is that of the current command, unless this is an upload, and has
been made by `prepareCmd`. -/
def Current (c : Client) : Prop :=
  ∀ command frame, lastPrepared c.log = some (command, frame) →
    (isChunkedCommand c.currentCmd = false → command.cmd = c.currentCmd) ∧
    frame.number = c.count ∧
    ∃ epochSeconds, frame.bytes = prepareCmd c.evp epochSeconds command.cmd command.data

variable {c c' : Client} {rest : List Handler}

theorem Current.between (hcurrent : Current c) (hbetween : Between c c') : Current c' := by
  intro command frame hlast
  obtain ⟨newer, hlog, hwires⟩ := hbetween.log
  rw [hlog, lastPrepared_wires hwires] at hlast
  rw [hbetween.cmd, hbetween.evp, hbetween.count]
  exact hcurrent command frame hlast

theorem Current.aside (hcurrent : Current c) (haside : c.Aside c') : Current c' := by
  obtain ⟨newer, commandQueue, flag, rfl, hnewer, -⟩ := haside
  intro command frame hlast
  exact hcurrent command frame ((lastPrepared_reports hnewer c.log).symm.trans hlast)

/-- After the failure of a write there is no frame. -/
theorem current_of_failed (hbusy : c.currentState ≠ .idle) :
    Current (c.handleCmdErrorOrTimeout .sSendcmdfail) := by
  obtain ⟨newer, commandQueue, flag, heq, hnewer, -⟩ :=
    aside_handleCmdErrorOrTimeout hbusy .sSendcmdfail
  rw [heq]
  intro command frame hlast
  have hnone : (none : Option (CommandWithData × TxFrame)) = some (command, frame) :=
    (lastPrepared_reports hnewer _).symm.trans hlast
  exact absurd hnone (by simp)

/-- A frame has just been prepared. -/
theorem current_prepareAndWrite (hresting : Resting c.transmission) {command : CommandWithData}
    (hcmd : isChunkedCommand c.currentCmd = false → command.cmd = c.currentCmd) :
    Current (c.prepareAndWrite command) := by
  rw [prepareAndWrite_eq hresting]
  have hprepared : Current (c.prepared command) := by
    intro other frame hlast
    obtain ⟨rfl, rfl⟩ := Prod.mk.inj (Option.some.inj hlast)
    exact ⟨hcmd, rfl, c.epochSeconds, rfl⟩
  exact hprepared.between (between_startWrite _)

theorem Current.start (hcurrent : Current c) (timer : Timer) : Current (c.start timer) := hcurrent

theorem Current.cancel (hcurrent : Current c) (timer : Timer) : Current (c.cancel timer) :=
  hcurrent

theorem Current.processEvent (hcurrent : Current c) (event : Event) :
    Current (c.processEvent event) := hcurrent

theorem Current.withChunks (hcurrent : Current c) (chunks : List CommandWithData) :
    Current (c.withChunks chunks) := hcurrent

/-- A transition changes neither the log nor the command. -/
theorem Current.enter (hcurrent : Current c) (next : State) : Current (c.enter next) := by
  unfold Client.enter
  simp only
  split
  · exact hcurrent
  · exact hcurrent

theorem Current.turn (hcurrent : Current c) (horderly : Orderly c) {event : Event}
    (hposted : c.posted = .event event :: rest) (hturn : Turn c rest event c') : Current c' := by
  have hbusy : ∀ state, c.currentState = state → state ≠ .idle →
      (c.taken rest).currentState ≠ .idle := by
    rintro _ rfl hbusy
    exact hbusy
  have htaken : Current (c.taken rest) := hcurrent
  cases hturn with
  | ignored => exact htaken
  | @launch command others hstate =>
      obtain ⟨hresting, -, -⟩ := horderly.begin hstate hposted rfl
      have hprepared : Current (((c.taken rest).dequeued command others).prepareAndWrite command) :=
        current_prepareAndWrite (c := (c.taken rest).dequeued command others) hresting
          fun _ => rfl
      exact (hprepared.start _).enter _
  | @launchChunks command chunk others chunks hstate hqueue hchunk =>
      obtain ⟨hresting, -, -⟩ := horderly.begin hstate hposted rfl
      have hprepared : Current ((((c.taken rest).dequeued command others).withChunks
          chunks).prepareAndWrite chunk) := by
        refine current_prepareAndWrite (c := ((c.taken rest).dequeued command others).withChunks
          chunks) hresting fun hplain => ?_
        exact absurd (hchunk.symm.trans hplain) (by decide)
      exact (hprepared.start _).enter _
  | complete => exact ((htaken.cancel _).start _).enter _
  | fail hstate => exact (current_of_failed (hbusy _ hstate (by decide))).enter _
  | failChunks hstate =>
      have hfailed : Current (((c.taken rest).handleCmdErrorOrTimeout
          .sSendcmdfail).processUploadLcscFilesEvent .cdfileUploadFailed) :=
        (current_of_failed (hbusy _ hstate (by decide))).aside (aside_note rfl)
      exact (hfailed.withChunks []).enter _
  | timeout hstate =>
      exact (htaken.aside (aside_failure (hbusy _ hstate (by decide)) (by decide))).enter _
  | timeoutChunks hstate =>
      have hfailed : Current (((c.taken rest).handleCmdErrorOrTimeout
          .sTimeout).processUploadLcscFilesEvent .cdfileUploadFailed) :=
        (htaken.aside (aside_failure (hbusy _ hstate (by decide)) (by decide))).aside
          (aside_note rfl)
      exact (hfailed.withChunks []).enter _
  | respond hwaiting =>
      have hbusy : (c.taken rest).currentState ≠ .idle := by
        intro hidle
        rw [show c.currentState = _ from hidle] at hwaiting
        exact absurd hwaiting (by decide)
      obtain ⟨settle, d, -, haside, hsame⟩ := handleRxBuffer_eq hbusy
      rw [hsame]
      have hanswering : Current (c.taken rest).answering := hcurrent
      exact (hanswering.aside haside).processEvent settle
  | finish | completeChunks => exact htaken.enter _
  | rejectChunks => exact (htaken.withChunks []).enter _
  | breakChunks hstate =>
      have hfailed : Current ((c.taken rest).handleCmdErrorOrTimeout .rNotRespCmd) :=
        htaken.aside (aside_failure (hbusy _ hstate (by decide)) (by decide))
      exact (hfailed.withChunks []).enter _
  | @next chunk chunks hstate hchunks =>
      have hwaiting : c.currentState.phase = .waiting := by rw [hstate]; rfl
      have hchunk : isChunkedCommand c.currentCmd = true := by
        have hsuited := horderly.suited
        rw [hstate] at hsuited
        exact hsuited
      obtain ⟨hresting, -, -⟩ := horderly.resume hwaiting hposted rfl
      have hprepared : Current (((c.taken rest).withChunks chunks).prepareAndWrite chunk) := by
        refine current_prepareAndWrite (c := (c.taken rest).withChunks chunks) hresting
          fun hplain => ?_
        exact absurd (hchunk.symm.trans hplain) (by decide)
      exact (hprepared.start _).enter _
  | nextNone => exact (htaken.start _).enter _

theorem Current.step (hcurrent : Current c) (horderly : Orderly c) (input : Input) :
    Current (c.step input) := by
  rcases horderly.step_cases input with ⟨event, rest, -, hposted, hturn⟩ | hbetween
  · exact hcurrent.turn horderly hposted hturn
  · exact hcurrent.between hbetween

/-- A frame that has been written was prepared before. -/
theorem lastPrepared_of_written {log : List Outcome} (hwritten : LastWritten log) :
    ∃ command frame, lastPrepared log = some (command, frame) := by
  induction log with
  | nil => exact hwritten.elim
  | cons outcome older ih =>
      cases outcome with
      | prepared command frame => exact hwritten.elim
      | written frame =>
          rcases hwritten with hlast | hwritten
          · obtain ⟨⟨command, frame⟩, hprepared, -⟩ := Option.map_eq_some_iff.mp hlast
            exact ⟨command, frame, hprepared⟩
          · exact ih hwritten
      | failed cmd msgStatus =>
          cases msgStatus with
          | sSendcmdfail => exact hwritten.elim
          | _ => exact ih hwritten
      | _ => exact ih hwritten

/-- In each stage at most one frame is queued, which is the one prepared last. -/
theorem Stage.queue {tx : Transmission} {log : List Outcome} (hstage : Stage tx log) :
    (tx.writeQueue = [] ∨
      ∃ frame, tx.writeQueue = [frame] ∧ (lastPrepared log).map Prod.snd = some frame) ∧
    tx.writing.length ≤ 1 := by
  cases hstage with
  | delayed frame hqueue hlast _ hwriting => exact ⟨.inr ⟨frame, hqueue, hlast⟩, by simp [hwriting]⟩
  | writing frame hqueue hlast _ hwriting => exact ⟨.inr ⟨frame, hqueue, hlast⟩, by simp [hwriting]⟩
  | ended frame _ hqueue hlast _ hwriting => exact ⟨.inr ⟨frame, hqueue, hlast⟩, by simp [hwriting]⟩
  | judged _ hqueue _ hwriting => exact ⟨.inl hqueue, by simp [hwriting]⟩
  | unsent hqueue _ hwriting => exact ⟨.inl hqueue, by simp [hwriting]⟩

theorem frameSound_of_orderly (horderly : Orderly c) (hcurrent : Current c) : FrameSound c := by
  have hcarried := horderly.carried
  have hqueue : (c.writeQueue = [] ∨
      ∃ frame, c.writeQueue = [frame] ∧ (lastPrepared c.log).map Prod.snd = some frame) ∧
      c.writing.length ≤ 1 := by
    have hresting : Resting c.transmission → (c.writeQueue = [] ∨
        ∃ frame, c.writeQueue = [frame] ∧ (lastPrepared c.log).map Prod.snd = some frame) ∧
        c.writing.length ≤ 1 := by
      intro hresting
      have hwriting : c.writing = [] := hresting.writing
      exact ⟨.inl hresting.queue, by simp [hwriting]⟩
    cases hphase : c.currentState.phase with
    | idle =>
        rw [hphase] at hcarried
        exact hresting hcarried
    | sending =>
        rw [hphase] at hcarried
        exact Stage.queue hcarried
    | waiting =>
        rw [hphase] at hcarried
        exact hresting hcarried.1
  refine ⟨?_, hqueue.2, fun hwaiting => ?_, horderly.sent⟩
  · rcases hqueue.1 with hnone | ⟨frame, hone, hlast⟩
    · exact .inl hnone
    · obtain ⟨⟨command, front⟩, hprepared, rfl⟩ := Option.map_eq_some_iff.mp hlast
      exact .inr ⟨command, front, hone, hprepared, (hcurrent _ _ hprepared).1⟩
  · rw [hwaiting] at hcarried
    obtain ⟨command, frame, hprepared⟩ := lastPrepared_of_written hcarried.2
    exact ⟨hcarried.2, command, frame, hprepared, (hcurrent _ _ hprepared).1⟩

theorem current_init (evp : Evp) (epochSeconds : UInt32) : Current (init evp epochSeconds) := by
  have hempty : Current { evp := evp, epochSeconds := epochSeconds, now := 0 } :=
    fun command frame hlast => absurd hlast (by simp [lastPrepared])
  have hqueued : Current { ({ evp := evp, epochSeconds := epochSeconds, now := 0 } : Client) with
      commandQueue := [⟨.login1, .null⟩] } := hempty
  exact hqueued.between (between_checkCommandQueue _)

/-- What holds in every patient run. -/
theorem current_run {evp : Evp} {epochSeconds : UInt32} {inputs : List Input}
    (hpatient : Meets step Patient (init evp epochSeconds) inputs) :
    Orderly (run step (init evp epochSeconds) inputs) ∧
      Current (run step (init evp epochSeconds) inputs) := by
  have hstep (c : Client) (input : Input) (hboth : Orderly c ∧ Current c)
      (hpatient : Patient c input) : Orderly (step c input) ∧ Current (step c input) :=
    ⟨hboth.1.step hpatient, hboth.2.step hboth.1 input⟩
  exact @run_invariant _ _ _ _ (fun c => Orderly c ∧ Current c) hstep _ _
    ⟨orderly_init evp epochSeconds, current_init evp epochSeconds⟩ hpatient

/-- In the runs in which no write timer runs out while a frame waits for the silence of the line,
the frame that is sent is the current command's. -/
theorem frameSound_of_patient (evp : Evp) (epochSeconds : UInt32) (inputs : List Input)
    (hpatient : Meets step Patient (init evp epochSeconds) inputs) :
    FrameSound (run step (init evp epochSeconds) inputs) := by
  obtain ⟨horderly, hcurrent⟩ := current_run hpatient
  exact frameSound_of_orderly horderly hcurrent

instance decidableSentLast : ∀ log, Decidable (SentLast log)
  | [] => inferInstanceAs (Decidable True)
  | outcome :: older =>
      haveI := decidableSentLast older
      match outcome with
      | .handed frame | .written frame => inferInstanceAs (Decidable
          ((lastPrepared older).map Prod.snd = some frame ∧ SentLast older))
      | .dequeued _ | .prepared _ _ | .acknowledged _ | .failed _ _ | .event _ _ _ | .upload _ =>
          inferInstanceAs (Decidable (SentLast older))

/-- The crypto library of the runs below: the challenge is left as it is. -/
def plainEvp : Evp := ⟨true, fun block => some block, fun _ => some []⟩

/-- A number of handlers. -/
def runs (count : ℕ) : List Input := List.replicate count .run

theorem frameSound_login :
    (run step (init plainEvp 0) (runs 1 ++ .writeDone true :: runs 2)).currentState =
        .waitingForResponse ∧
      FrameSound (run step (init plainEvp 0) (runs 1 ++ .writeDone true :: runs 2)) :=
  ⟨by decide +kernel, frameSound_of_patient plainEvp 0 _ (by decide +kernel)⟩

/-- The write of the first command fails, a byte comes, and a deduction is taken up: its frame
waits, the write timer runs out, and the command is reported as failed. -/
def failedInTheGap : List Input :=
  runs 1 ++ .writeDone false :: runs 3 ++ .readDone [0x00] :: runs 1 ++
    .send (.cardDeduct 500) :: runs 2 ++ .expire .serialWrite :: runs 2

/-- The frame of the deduction that has been reported as failed is handed to the port. -/
theorem not_frameSound : ¬ FrameSound (run step (init plainEvp 0)
    (failedInTheGap ++ [.elapse 200, .expire .serialWriteDelay, .run, .run])) := by
  intro hsound
  have hunsound : ¬ SentLast (run step (init plainEvp 0)
      (failedInTheGap ++ [.elapse 200, .expire .serialWriteDelay, .run, .run])).log := by
    decide +kernel
  exact hunsound hsound.sent

end Client

end LinuxPBS.Lcsc

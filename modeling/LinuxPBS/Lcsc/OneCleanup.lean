import LinuxPBS.Lcsc.Token

/-!
# One cleanup for a file

Each file that is started is told to have ended once, is cleaned up once, and is the file that is
removed (`OneCleanup`).  A second end of an upload, as of a time-out behind the last answer, is a
second thing to wait for: the file is cleaned up twice, and the second cleanup ends when
another file is under way (`not_oneCleanup`).

`oneCleanup_of_timely` is about the runs without such a time-out, and without a frame that is
left behind a failed command (`Patient`).
-/

namespace LinuxPBS.Lcsc

open Machine

namespace Workflow

variable {w w' : Workflow} {token : Token} {handler : FilesHandler} {job : FileJob}
  {rest : List FilesHandler} {now : Progress} {state : UploadLcscFilesState}
  {posted : List FilesHandler}

/-! ## Every handler keeps to its turn -/

/-- What holds between two inputs. -/
structure Sound (w : Workflow) : Prop where
  one : OneCleanup w
  tidy : Tidy w.currentUploadLcscFilesState w.posted
  orderly : w.client.Orderly
  settling : w.client.Settling

theorem process_other {event : UploadLcscFilesEvent} (hends : event.ends = none) (w : Workflow) :
    w.processUploadLcscFilesEvent event = w.post (.event event) := by
  cases event <;> first | rfl | exact absurd hends (by simp [UploadLcscFilesEvent.ends])

theorem process_ends {event : UploadLcscFilesEvent} {ended : UploadEvent}
    (hends : event.ends = some ended) (w : Workflow) :
    w.processUploadLcscFilesEvent event = (w.post (.event event)).note (.ended ended) := by
  cases event with
  | cdfileUploaded | cdfileUploadFailed =>
      obtain rfl := Option.some.inj hends
      rfl
  | _ => exact absurd hends (by simp [UploadLcscFilesEvent.ends])

theorem progress_cons {outcome : FileOutcome} {log : List FileOutcome}
    (hprogress : progress log = some now) : progress (outcome :: log) = outcome.moves now := by
  rw [progress, hprogress]
  rfl

/-- The handler that has been waited for is run, and what comes of it is waited for instead. -/
theorem one_advance (hone : OneCleanup w) (hposted : w.posted = handler :: rest)
    (hadvances : handler.advances = true) :
    OneCleanup ((w.taken rest).runHandler handler) := by
  obtain ⟨now, token, hprogress, hplace, hholds⟩ := hone
  obtain ⟨rfl, hfree⟩ := hholds.take hposted hadvances
  generalize hstate : w.currentUploadLcscFilesState = state at hplace
  generalize hname : w.uploadLcscFileName = name at hplace
  cases hplace with
  | downloaded _ hevent =>
      rcases hevent with rfl | rfl
      · have hsame : (w.taken rest).runHandler (.event .cdfilesDownloaded) =
            { { w.taken rest with hasCDFileToUpload := true }.startJob .scanDownloadedCdFiles with
              currentUploadLcscFilesState := .uploadCdfiles } := by
          simp [runHandler, runEvent, hstate, uploadLcscStateTransitionTable, lcscEventHandler,
            handleDownloadCDFilesState, taken, startJob]
        rw [hsame]
        exact ⟨.resting, _, hprogress, .scanning _, (hfree.startJob rfl).of_same rfl rfl rfl⟩
      · have hsame : (w.taken rest).runHandler (.event .noCdfilesDownloaded) =
            { w.taken rest with currentUploadLcscFilesState := .idle } := by
          simp [runHandler, runEvent, hstate, uploadLcscStateTransitionTable, lcscEventHandler,
            handleDownloadCDFilesState, taken]
        rw [hsame]
        exact ⟨.resting, _, hprogress, .idle _, hfree.of_same rfl rfl rfl⟩
  | scanned _ path =>
      by_cases hpath : path = []
      · have hsame : (w.taken rest).runHandler (.scanned path) =
            (w.taken rest).post (.event .getLcscDeviceStatus) := if_pos hpath
        rw [hsame]
        exact ⟨.resting, _, hprogress, hstate ▸ .finished _, hfree.post rfl⟩
      · have hsame : (w.taken rest).runHandler (.scanned path) =
            { w.taken rest with uploadLcscFileName := path }.post
              (.event (.cdfilesUploading path)) := if_neg hpath
        have hplace : Place w.currentUploadLcscFilesState path
            (.handler (.event (.cdfilesUploading path))) .resting := by
          rw [hstate]
          exact .selected hpath
        rw [hsame]
        exact ⟨.resting, _, hprogress, hplace, (hfree.post rfl).of_same rfl rfl rfl⟩
  | selected hpath =>
      have hsame : (w.taken rest).runHandler (.event (.cdfilesUploading name)) =
          ((w.taken rest).note (.started name)).startJob (.uploadCdFile name) := by
        simp [runHandler, runEvent, hstate, uploadLcscStateTransitionTable, lcscEventHandler,
          handleUploadCDFilesState, taken, note, startJob]
      have hplace : Place w.currentUploadLcscFilesState w.uploadLcscFileName
          (.job (.uploadCdFile name)) (.uploading name) := by
        rw [hstate, hname]
        exact .preparing hpath
      rw [hsame]
      refine ⟨.uploading name, _, progress_cons hprogress, hplace, ?_⟩
      exact (hfree.startJob rfl).of_same rfl rfl rfl
  | finished =>
      have hsame : (w.taken rest).runHandler (.event .getLcscDeviceStatus) =
          { (w.taken rest).note .generating with
            client := w.client.enqueueCommandOnIoThread ⟨.getStatusCmd, .null⟩
            currentUploadLcscFilesState := .generateCdackfiles } := by
        simp [runHandler, runEvent, hstate, uploadLcscStateTransitionTable, lcscEventHandler,
          handleUploadCDFilesState, taken, note]
      rw [hsame]
      refine ⟨.generating, .nothing, progress_cons hprogress, .generating _, ?_⟩
      exact hfree.of_same rfl rfl (Client.requested_enqueueCommandOnIoThread rfl)
  | unsent hpath cmd =>
      have hsame : (w.taken rest).runHandler (.failed cmd) =
          (((w.taken rest).note (.failed cmd .sSendcmdfail)).post
            (.event .cdfileUploadFailed)).note (.ended .cdfileUploadFailed) := rfl
      have hfailed : progress (.failed cmd .sSendcmdfail :: w.log) = some (.uploading name) :=
        progress_cons hprogress
      have hplace : Place w.currentUploadLcscFilesState w.uploadLcscFileName
          (.handler (.event .cdfileUploadFailed)) (.ended name) := by
        rw [hstate, hname]
        exact .ended hpath (by decide)
      rw [hsame]
      refine ⟨.ended name, _, progress_cons hfailed, hplace, ?_⟩
      exact (hfree.post rfl).of_same rfl rfl rfl
  | @ended _ hpath event hevent =>
      have hsame : (w.taken rest).runHandler (.event event) =
          ((w.taken rest).note (.cleanup name)).startJob (.cleanupCdFile name) := by
        cases event with
        | cdfileUploaded | cdfileUploadFailed =>
            simp [runHandler, runEvent, hstate, hname, hpath, uploadLcscStateTransitionTable,
              lcscEventHandler, handleUploadCDFilesState, startCleanupCdFileJob, taken, note,
              startJob]
        | _ => exact absurd rfl hevent
      have hplace : Place w.currentUploadLcscFilesState w.uploadLcscFileName
          (.job (.cleanupCdFile name)) (.cleaning name) := by
        rw [hstate, hname]
        exact .cleaning name
      rw [hsame]
      refine ⟨.cleaning name, _, (progress_cons hprogress).trans (if_pos rfl), hplace, ?_⟩
      exact (hfree.startJob rfl).of_same rfl rfl rfl
  | @removed _ event hevent =>
      have hsame : (w.taken rest).runHandler (.event event) =
          { (w.taken rest).note .cleaned with
            uploadLcscFileName := []
            currentUploadLcscFilesState := .idle } := by
        cases event with
        | cdfileCleanupCompleted | cdfileCleanupFailed =>
            simp [runHandler, runEvent, hstate, uploadLcscStateTransitionTable, lcscEventHandler,
              handleUploadCDFilesState, taken, note]
        | _ => exact absurd hevent Bool.false_ne_true
      rw [hsame]
      exact ⟨.resting, .nothing, progress_cons hprogress, .idle _, hfree.of_same rfl rfl rfl⟩

/-- The states that take an event that is no matter of a file. -/
theorem other_cases {event : UploadLcscFilesEvent} {next : UploadLcscFilesState}
    (htable : uploadLcscStateTransitionTable state event = some next)
    (hother : (FilesHandler.event event).advances = false) :
    state = .idle ∧ event = .checkCondition ∧ next = .idle ∨
    state = .idle ∧ event = .allowDownload ∧ next = .downloadCdfiles ∨
    state = .idle ∧ event = .continueUpload ∧ next = .downloadCdfiles ∨
    state = .generateCdackfiles ∧ event = .getLcscDeviceStatusOk ∧ next = .moveCdackfiles ∨
    state = .generateCdackfiles ∧ event = .getLcscDeviceStatusFailed ∧ next = .idle ∨
    state = .moveCdackfiles ∧
      (event = .cdackFinalizeCompleted ∨ event = .cdackFinalizeFailed) ∧ next = .idle := by
  cases state <;> cases event <;>
    simp_all [uploadLcscStateTransitionTable, FilesHandler.advances, eq_comm]

theorem runEvent_some {event : UploadLcscFilesEvent} {next : UploadLcscFilesState}
    (htable : uploadLcscStateTransitionTable w.currentUploadLcscFilesState event = some next) :
    w.runEvent event = { w.lcscEventHandler event with currentUploadLcscFilesState := next } := by
  simp [runEvent, htable]

/-- A handler that is no matter of a file leaves what is waited for as it is. -/
theorem one_other (hone : OneCleanup w) (hposted : w.posted = handler :: rest)
    (hother : handler.advances = false) :
    OneCleanup ((w.taken rest).runHandler handler) := by
  obtain ⟨now, token, hprogress, hplace, hholds⟩ := hone
  have hpass := hholds.pass hposted hother
  obtain ⟨event, rfl⟩ : ∃ event, handler = .event event := by
    cases handler with
    | event event => exact ⟨event, rfl⟩
    | scanned path | failed cmd => exact absurd hother (by simp [FilesHandler.advances])
  change OneCleanup ((w.taken rest).runEvent event)
  cases htable : uploadLcscStateTransitionTable w.currentUploadLcscFilesState event with
  | none =>
      have hsame : (w.taken rest).runEvent event = w.taken rest := by
        simp [runEvent, taken, htable]
      rw [hsame]
      exact ⟨now, token, hprogress, hplace, hpass⟩
  | some next =>
      rw [runEvent_some (w := w.taken rest) htable]
      rcases other_cases htable hother with ⟨hstate, rfl, rfl⟩ | ⟨hstate, rfl, rfl⟩ |
        ⟨hstate, rfl, rfl⟩ | ⟨hstate, rfl, rfl⟩ | ⟨hstate, rfl, rfl⟩ | ⟨hstate, hevent, rfl⟩
      · obtain ⟨rfl, rfl⟩ := hplace.of_idle hstate
        have hidle : (w.taken rest).lcscEventHandler .checkCondition =
            (w.taken rest).handleUploadLcscIdleState .checkCondition := by
          simp [lcscEventHandler, taken, hstate]
        rw [hidle]
        -- a search may be begun: the event for it is no matter of a file yet
        unfold handleUploadLcscIdleState
        simp only
        split_ifs
        · have hbegun : Holds ((w.taken rest).post (.event .allowDownload)) .nothing :=
            hpass.other rfl
          exact ⟨.resting, .nothing, hprogress, .idle _, hbegun.of_same rfl rfl rfl⟩
        · have hbegun : Holds ((w.taken rest).post (.event .continueUpload)) .nothing :=
            hpass.other rfl
          exact ⟨.resting, .nothing, hprogress, .idle _, hbegun.of_same rfl rfl rfl⟩
        · exact ⟨.resting, .nothing, hprogress, .idle _, hpass.of_same rfl rfl rfl⟩
        · exact ⟨.resting, .nothing, hprogress, .idle _, hpass.of_same rfl rfl rfl⟩
      · obtain ⟨rfl, rfl⟩ := hplace.of_idle hstate
        have hstarts : (w.taken rest).lcscEventHandler .allowDownload =
            (w.taken rest).startJob .downloadCdFiles := by
          simp [lcscEventHandler, handleUploadLcscIdleState, taken, hstate]
        rw [hstarts]
        exact ⟨.resting, _, hprogress, .downloading _, (hpass.startJob rfl).of_same rfl rfl rfl⟩
      · obtain ⟨rfl, rfl⟩ := hplace.of_idle hstate
        have hposts : (w.taken rest).lcscEventHandler .continueUpload =
            (w.taken rest).post (.event .cdfilesDownloaded) := by
          simp [lcscEventHandler, handleUploadLcscIdleState, processUploadLcscFilesEvent, taken,
            hstate]
        rw [hposts]
        exact ⟨.resting, _, hprogress, .downloaded _ (.inl rfl),
          (hpass.post rfl).of_same rfl rfl rfl⟩
      · have hstarts : (w.taken rest).lcscEventHandler .getLcscDeviceStatusOk =
            (w.taken rest).startJob .finalizeCdAckFiles := by
          simp [lcscEventHandler, handleGenerateCDAckFilesState, taken, hstate]
        rw [hstate] at hplace
        cases hplace with
        | generating =>
            rw [hstarts]
            exact ⟨.generating, _, hprogress, .moving _, (hpass.otherJob rfl).of_same rfl rfl rfl⟩
      · have hends : (w.taken rest).lcscEventHandler .getLcscDeviceStatusFailed =
            (w.taken rest).note .generated := by
          simp [lcscEventHandler, handleGenerateCDAckFilesState, taken, hstate]
        rw [hstate] at hplace
        cases hplace with
        | generating =>
            rw [hends]
            exact ⟨.resting, _, progress_cons hprogress, .idle _, hpass.of_same rfl rfl rfl⟩
      · have hmoves : (w.taken rest).lcscEventHandler event =
            (w.taken rest).handleMoveCDAckFilesState event := by
          simp [lcscEventHandler, taken, hstate]
        rw [hstate] at hplace
        cases hplace with
        | moving =>
            rw [hmoves]
            rcases hevent with rfl | rfl
            · exact ⟨.resting, _, progress_cons hprogress, .idle _, hpass.of_same rfl rfl rfl⟩
            · exact ⟨.resting, _, progress_cons hprogress, .idle _, hpass.of_same rfl rfl rfl⟩

/-! ## What a handler or a job posts -/

/-- What a handler or a job does to the two queues. -/
structure Onwards (w w' : Workflow) : Prop where
  posts : ∃ newer, w'.posted = w.posted ++ newer ∧ ∀ handler ∈ newer, handler.begins = false
  client : w'.client = w.client ∨ (∃ request, w'.client = w.client.send request) ∨
    w'.client = w.client.enqueueCommandOnIoThread ⟨.getStatusCmd, .null⟩

theorem Onwards.of_same (hposted : w'.posted = w.posted) (hclient : w'.client = w.client) :
    Onwards w w' :=
  ⟨⟨[], hposted.trans (List.append_nil _).symm, by simp⟩, .inl hclient⟩

theorem Onwards.of_post (hposted : w'.posted = w.posted ++ [handler])
    (hclient : w'.client = w.client) (hnone : handler.begins = false) : Onwards w w' :=
  ⟨⟨[handler], hposted, by simpa using hnone⟩, .inl hclient⟩

theorem Onwards.orderly (honwards : Onwards w w') (horderly : w.client.Orderly) :
    w'.client.Orderly := by
  rcases honwards.client with hsame | ⟨request, hsend⟩ | hstatus
  · rw [hsame]
    exact horderly
  · rw [hsend]
    exact horderly.send request
  · rw [hstatus]
    exact horderly.enqueueCommandOnIoThread fun hchunk => absurd hchunk (by decide)

theorem Onwards.settling (honwards : Onwards w w') (hsettling : w.client.Settling) :
    w'.client.Settling := by
  rcases honwards.client with hsame | ⟨request, hsend⟩ | hstatus
  · rw [hsame]
    exact hsettling
  · rw [hsend]
    exact hsettling.between (Client.between_send _ request)
  · rw [hstatus]
    exact hsettling.between (Client.between_enqueueCommandOnIoThread _ _)

theorem onwards_lcscEventHandler {event : UploadLcscFilesEvent} (hevent : event ≠ .checkCondition) :
    Onwards w (w.lcscEventHandler event) := by
  unfold lcscEventHandler
  split
  · cases event with
    | checkCondition => exact absurd rfl hevent
    | continueUpload => exact .of_post rfl rfl rfl
    | _ => exact .of_same rfl rfl
  · cases event <;> exact .of_same rfl rfl
  · have hcleanup : Onwards w (w.startCleanupCdFileJob w.uploadLcscFileName) := by
      unfold startCleanupCdFileJob
      simp only
      split
      · exact .of_post rfl rfl rfl
      · exact .of_same rfl rfl
    cases event with
    | cdfileUploaded | cdfileUploadFailed => exact hcleanup
    | getLcscDeviceStatus =>
        exact ⟨⟨[], (List.append_nil _).symm, by simp⟩, .inr (.inr rfl)⟩
    | _ => exact .of_same rfl rfl
  · cases event <;> exact .of_same rfl rfl
  · cases event <;> exact .of_same rfl rfl

theorem onwards_runHandler (hhandler : handler ≠ .event .checkCondition) :
    Onwards w (w.runHandler handler) := by
  cases handler with
  | event event =>
      have hevent : event ≠ .checkCondition := fun hsame => hhandler (congrArg _ hsame)
      change Onwards w (w.runEvent event)
      unfold runEvent
      split
      · exact .of_same rfl rfl
      · have honwards := onwards_lcscEventHandler (w := w) hevent
        exact ⟨honwards.posts, honwards.client⟩
  | scanned path =>
      change Onwards w (if path = [] then _ else _)
      split
      · exact .of_post rfl rfl rfl
      · exact .of_post rfl rfl rfl
  | failed cmd => exact .of_post rfl rfl rfl

theorem onwards_process {event : UploadLcscFilesEvent}
    (hnone : (FilesHandler.event event).begins = false) :
    Onwards w (w.processUploadLcscFilesEvent event) := by
  have hposted : (w.processUploadLcscFilesEvent event).posted = w.posted ++ [.event event] := by
    cases event <;> rfl
  have hclient : (w.processUploadLcscFilesEvent event).client = w.client := by
    cases event <;> rfl
  exact .of_post hposted hclient hnone

theorem onwards_finishJob (answer : FileAnswer) : Onwards w (w.finishJob answer job) := by
  cases job with
  | downloadCdFiles =>
      refine onwards_process ?_
      split <;> rfl
  | scanDownloadedCdFiles => exact .of_post rfl rfl rfl
  | uploadCdFile path =>
      change Onwards w (w.uploadCdFile2 path answer.fileData)
      unfold uploadCdFile2
      split
      · exact onwards_process rfl
      · split
        · exact onwards_process rfl
        · split
          · exact .of_post rfl rfl rfl
          · exact ⟨⟨[], (List.append_nil _).symm, by simp⟩, .inr (.inl ⟨_, rfl⟩)⟩
  | cleanupCdFile path =>
      have honwards :
          Onwards (w.note (.removed path)) (w.finishJob answer (.cleanupCdFile path)) := by
        refine onwards_process ?_
        split <;> rfl
      exact ⟨honwards.posts, honwards.client⟩
  | finalizeCdAckFiles =>
      refine onwards_process ?_
      split <;> rfl

/-- The queue is in order in the next state. -/
theorem Tidy.enter (htidy : Tidy state posted) {next : UploadLcscFilesState}
    (hnext : next = state ∨ next = .idle ∨ next = .downloadCdfiles ∨
      state = .generateCdackfiles) : Tidy next posted := by
  refine ⟨htidy.order, fun hidle hdownload => ?_⟩
  rcases hnext with rfl | rfl | rfl | rfl
  · exact htidy.begun hidle hdownload
  · exact absurd rfl hidle
  · exact absurd rfl hdownload
  · exact htidy.begun (by decide) (by decide)

/-- The state behind a handler that is no matter of a file. -/
theorem state_other {event : UploadLcscFilesEvent}
    (hother : (FilesHandler.event event).advances = false) :
    (w.runEvent event).currentUploadLcscFilesState = w.currentUploadLcscFilesState ∨
    (w.runEvent event).currentUploadLcscFilesState = .idle ∨
    (w.runEvent event).currentUploadLcscFilesState = .downloadCdfiles ∨
    w.currentUploadLcscFilesState = .generateCdackfiles := by
  cases htable : uploadLcscStateTransitionTable w.currentUploadLcscFilesState event with
  | none =>
      left
      simp [runEvent, htable]
  | some next =>
      rw [runEvent_some htable]
      rcases other_cases htable hother with ⟨-, -, rfl⟩ | ⟨-, -, rfl⟩ | ⟨-, -, rfl⟩ |
        ⟨hstate, -⟩ | ⟨-, -, rfl⟩ | ⟨-, -, rfl⟩
      · exact .inr (.inl rfl)
      · exact .inr (.inr (.inl rfl))
      · exact .inr (.inr (.inl rfl))
      · exact .inr (.inr (.inr hstate))
      · exact .inr (.inl rfl)
      · exact .inr (.inl rfl)

/-- The condition is looked at in `IDLE` only, and begins a search at most. -/
theorem checkCondition_cases (w : Workflow) :
    w.runEvent .checkCondition = w ∨
    w.currentUploadLcscFilesState = .idle ∧ ∃ newer,
      (w.runEvent .checkCondition).posted = w.posted ++ newer ∧
      (newer = [] ∨ ∃ handler, newer = [handler]) ∧
      (w.runEvent .checkCondition).client = w.client ∧
      (w.runEvent .checkCondition).currentUploadLcscFilesState = .idle := by
  by_cases hidle : w.currentUploadLcscFilesState = .idle
  · right
    refine ⟨hidle, ?_⟩
    have htable : uploadLcscStateTransitionTable w.currentUploadLcscFilesState .checkCondition =
        some .idle := by rw [hidle]; rfl
    have hhandler : w.lcscEventHandler .checkCondition =
        w.handleUploadLcscIdleState .checkCondition := by simp [lcscEventHandler, hidle]
    rw [runEvent_some htable, hhandler]
    unfold handleUploadLcscIdleState
    split_ifs
    · exact ⟨_, rfl, .inr ⟨_, rfl⟩, rfl, rfl⟩
    · exact ⟨_, rfl, .inr ⟨_, rfl⟩, rfl, rfl⟩
    · exact ⟨[], (List.append_nil _).symm, .inl rfl, rfl, rfl⟩
    · exact ⟨[], (List.append_nil _).symm, .inl rfl, rfl, rfl⟩
  · left
    have htable : uploadLcscStateTransitionTable w.currentUploadLcscFilesState .checkCondition =
        none := by
      generalize w.currentUploadLcscFilesState = state at hidle
      cases state with
      | idle => exact absurd rfl hidle
      | _ => rfl
    simp [runEvent, htable]

/-- Nothing is waited for in `IDLE`. -/
theorem OneCleanup.of_idle (hone : OneCleanup w) (hidle : w.currentUploadLcscFilesState = .idle) :
    Holds w .nothing := by
  obtain ⟨now, token, -, hplace, hholds⟩ := hone
  obtain ⟨rfl, -⟩ := hplace.of_idle hidle
  exact hholds

/-- A handler is run. -/
theorem Sound.run (hsound : Sound w) (hposted : w.posted = handler :: rest) :
    Sound ((w.taken rest).runHandler handler) := by
  have htidy := hsound.tidy
  rw [hposted] at htidy
  by_cases hadvances : handler.advances = true
  · have honwards : Onwards (w.taken rest) ((w.taken rest).runHandler handler) := by
      refine onwards_runHandler fun hcheck => ?_
      rw [hcheck] at hadvances
      exact absurd hadvances Bool.false_ne_true
    obtain ⟨newer, hqueue, hnone⟩ := honwards.posts
    refine ⟨one_advance hsound.one hposted hadvances, ?_, honwards.orderly hsound.orderly,
      honwards.settling hsound.settling⟩
    rw [hqueue]
    exact (tidy_of_none (htidy.behind hadvances)).append hnone
  · have hother := Bool.eq_false_iff.mpr hadvances
    have hone := one_other hsound.one hposted hother
    by_cases hcheck : handler = .event .checkCondition
    · subst hcheck
      rcases checkCondition_cases (w.taken rest) with hsame | ⟨hidle, newer, hqueue, hnewer,
        hclient, hstate⟩
      · have hsame : (w.taken rest).runHandler (.event .checkCondition) = w.taken rest := hsame
        rw [hsame] at hone ⊢
        exact ⟨hone, htidy.tail, hsound.orderly, hsound.settling⟩
      · have hfree : (w.taken rest).posted.filter FilesHandler.advances = [] := by
          have hidle' : w.currentUploadLcscFilesState = .idle := hidle
          exact ((hsound.one.of_idle hidle').pass hposted hother).handlers
        have hrest : Tidy .idle rest := htidy.tail.enter (.inr (.inl rfl))
        refine ⟨hone, ?_, ?_, ?_⟩
        · change Tidy ((w.taken rest).runEvent .checkCondition).currentUploadLcscFilesState
            ((w.taken rest).runEvent .checkCondition).posted
          rw [hstate, hqueue]
          rcases hnewer with rfl | ⟨begin, rfl⟩
          · exact (List.append_nil rest).symm ▸ hrest
          · exact hrest.begin hfree
        · exact (congrArg Client.Orderly hclient).mpr hsound.orderly
        · exact (congrArg Client.Settling hclient).mpr hsound.settling
    · have honwards : Onwards (w.taken rest) ((w.taken rest).runHandler handler) :=
        onwards_runHandler hcheck
      obtain ⟨newer, hqueue, hnone⟩ := honwards.posts
      refine ⟨hone, ?_, honwards.orderly hsound.orderly, honwards.settling hsound.settling⟩
      obtain ⟨event, rfl⟩ : ∃ event, handler = .event event := by
        cases handler with
        | event event => exact ⟨event, rfl⟩
        | scanned path | failed cmd => exact absurd rfl hadvances
      rw [hqueue]
      exact (htidy.tail.append hnone).enter (state_other (w := w.taken rest) hother)

/-! ## Every job keeps to its turn -/

/-- The worker is free again. -/
def freed (w : Workflow) (index : ℕ) : Workflow :=
  { w with filePool := w.filePool.eraseIdx index }

theorem state_process (w : Workflow) (event : UploadLcscFilesEvent) :
    (w.processUploadLcscFilesEvent event).currentUploadLcscFilesState =
      w.currentUploadLcscFilesState := by
  cases event <;> rfl

/-- The upload that is being prepared is told to have failed. -/
theorem one_refused {path : List Char} (hprogress : progress w.log = some (.uploading path))
    (hstate : w.currentUploadLcscFilesState = .uploadCdfiles)
    (hname : w.uploadLcscFileName = path) (hpath : path ≠ []) (hfree : Holds w .nothing) :
    OneCleanup (w.processUploadLcscFilesEvent .cdfileUploadFailed) := by
  have hsame : w.processUploadLcscFilesEvent .cdfileUploadFailed =
      (w.post (.event .cdfileUploadFailed)).note (.ended .cdfileUploadFailed) := rfl
  have hplace : Place w.currentUploadLcscFilesState w.uploadLcscFileName
      (.handler (.event .cdfileUploadFailed)) (.ended path) := by
    rw [hstate, hname]
    exact .ended hpath (by decide)
  rw [hsame]
  exact ⟨.ended path, _, progress_cons hprogress, hplace, (hfree.post rfl).of_same rfl rfl rfl⟩

/-- The file that has been started is read and handed to the client, or its upload has ended. -/
theorem one_uploadCdFile2 {path : List Char} (fileData : List UInt8)
    (hprogress : progress w.log = some (.uploading path))
    (hstate : w.currentUploadLcscFilesState = .uploadCdfiles)
    (hname : w.uploadLcscFileName = path) (hpath : path ≠ []) (hfree : Holds w .nothing) :
    OneCleanup (w.uploadCdFile2 path fileData) := by
  unfold uploadCdFile2
  rw [if_neg hpath]
  cases hrequest : uploadRequest path fileData with
  | none => exact one_refused hprogress hstate hname hpath hfree
  | some request =>
      have huploads : request.uploads = true := by
        unfold uploadRequest at hrequest
        split_ifs at hrequest <;> (obtain rfl := Option.some.inj hrequest; rfl)
      simp only
      cases hcommand : request.command with
      | none =>
          have hplace : Place w.currentUploadLcscFilesState w.uploadLcscFileName
              (.handler (.failed request.cmd)) (.uploading path) := by
            rw [hstate, hname]
            exact .unsent hpath request.cmd
          rw [if_pos rfl]
          exact ⟨.uploading path, _, hprogress, hplace, hfree.post rfl⟩
      | some command =>
          have hchunk := Request.chunked_of_command hcommand huploads
          have hplace : Place w.currentUploadLcscFilesState w.uploadLcscFileName .upload
              (.uploading path) := by
            rw [hstate, hname]
            exact .uploading hpath
          have hrequested : (w.client.send request).uploadsRequested = 1 := by
            rw [Client.requested_send_chunks hcommand hchunk, hfree.uploads]
            rfl
          rw [if_neg (Option.some_ne_none command)]
          exact ⟨.uploading path, .upload, hprogress, hplace, hfree.handlers, hfree.jobs,
            hrequested⟩

theorem one_job (hone : OneCleanup w) {index : ℕ} (hjob : w.filePool[index]? = some job)
    (answer : FileAnswer) : OneCleanup ((w.freed index).finishJob answer job) := by
  obtain ⟨now, token, hprogress, hplace, hholds⟩ := hone
  cases hadvances : job.advances with
  | false =>
      obtain rfl : job = .finalizeCdAckFiles := by
        cases job with
        | finalizeCdAckFiles => rfl
        | _ => exact absurd hadvances (by simp [FileJob.advances])
      have hpass := hholds.passJob hjob hadvances
      change OneCleanup ((w.freed index).processUploadLcscFilesEvent _)
      split
      · exact ⟨now, token, hprogress, hplace, hpass.other rfl⟩
      · exact ⟨now, token, hprogress, hplace, hpass.other rfl⟩
  | true =>
      obtain ⟨rfl, hfree⟩ := hholds.takeJob hjob hadvances
      generalize hstate : w.currentUploadLcscFilesState = state at hplace
      generalize hname : w.uploadLcscFileName = name at hplace
      cases hplace with
      | downloading =>
          change OneCleanup ((w.freed index).processUploadLcscFilesEvent _)
          split
          · exact ⟨.resting, _, hprogress, hstate ▸ .downloaded _ (.inl rfl), hfree.post rfl⟩
          · exact ⟨.resting, _, hprogress, hstate ▸ .downloaded _ (.inr rfl), hfree.post rfl⟩
      | scanning => exact ⟨.resting, _, hprogress, hstate ▸ .scanned _ _, hfree.post rfl⟩
      | preparing hpath =>
          exact one_uploadCdFile2 answer.fileData (w := w.freed index) hprogress hstate hname
            hpath hfree
      | cleaning =>
          have hremoved : progress (.removed name :: w.log) = some (.removed name) :=
            (progress_cons hprogress).trans (if_pos rfl)
          have hplace : ∀ event : UploadLcscFilesEvent, event.endsCleanup = true →
              Place w.currentUploadLcscFilesState w.uploadLcscFileName
                (.handler (.event event)) (.removed name) := by
            intro event hevent
            rw [hstate, hname]
            exact .removed name hevent
          change OneCleanup (((w.freed index).note (.removed name)).processUploadLcscFilesEvent _)
          split
          · exact ⟨.removed name, _, hremoved, hplace .cdfileCleanupFailed rfl,
              (hfree.post rfl).of_same rfl rfl rfl⟩
          · exact ⟨.removed name, _, hremoved, hplace .cdfileCleanupCompleted rfl,
              (hfree.post rfl).of_same rfl rfl rfl⟩

theorem state_finishJob (answer : FileAnswer) :
    (w.finishJob answer job).currentUploadLcscFilesState = w.currentUploadLcscFilesState := by
  cases job with
  | uploadCdFile path =>
      change (w.uploadCdFile2 path answer.fileData).currentUploadLcscFilesState = _
      unfold uploadCdFile2
      split
      · rfl
      · split
        · rfl
        · split <;> rfl
  | scanDownloadedCdFiles => rfl
  | downloadCdFiles | cleanupCdFile path | finalizeCdAckFiles => exact state_process _ _

/-- A job ends. -/
theorem Sound.work (hsound : Sound w) {index : ℕ} (hjob : w.filePool[index]? = some job)
    (answer : FileAnswer) : Sound ((w.freed index).finishJob answer job) := by
  have honwards : Onwards (w.freed index) ((w.freed index).finishJob answer job) :=
    onwards_finishJob answer
  obtain ⟨newer, hqueue, hnone⟩ := honwards.posts
  refine ⟨one_job hsound.one hjob answer, ?_, honwards.orderly hsound.orderly,
    honwards.settling hsound.settling⟩
  rw [state_finishJob, hqueue]
  exact hsound.tidy.append hnone

/-! ## What the client tells -/

/-- The events that the client raises. -/
def told (w : Workflow) (input : Input) : List UploadLcscFilesEvent :=
  (added w.client (w.client.step input)).flatMap (raisedBy w.currentUploadLcscFilesState) ++
    statusRaised w.client input

theorem isTold_raisedBy (outcome : Outcome) :
    ∀ event ∈ raisedBy state outcome, event.IsTold := by
  unfold raisedBy
  split
  · exact List.forall_mem_singleton.mpr ⟨rfl, rfl⟩
  · exact List.forall_mem_singleton.mpr ⟨rfl, rfl⟩
  · split
    · exact List.forall_mem_singleton.mpr ⟨rfl, rfl⟩
    · exact fun _ hmem => absurd hmem List.not_mem_nil
  · exact fun _ hmem => absurd hmem List.not_mem_nil

/-- The answer to a status command is no matter of a file. -/
theorem statusRaised_cases (c : Client) (input : Input) :
    statusRaised c input = [] ∨ ∃ event, statusRaised c input = [event] ∧
      event.IsTold ∧ event.ends = none := by
  unfold statusRaised
  split
  · split
    · split
      · split
        · exact .inr ⟨_, rfl, ⟨rfl, rfl⟩, rfl⟩
        · exact .inr ⟨_, rfl, ⟨rfl, rfl⟩, rfl⟩
      · exact .inl rfl
    · exact .inl rfl
  · exact .inl rfl

theorem isTold_told (w : Workflow) (input : Input) :
    ∀ event ∈ w.told input, event.IsTold := by
  intro event hmem
  rcases List.mem_append.mp hmem with hadded | hstatus
  · obtain ⟨outcome, -, hraised⟩ := List.mem_flatMap.mp hadded
    exact isTold_raisedBy outcome event hraised
  · rcases statusRaised_cases w.client input with hnone | ⟨other, hone, htold, -⟩
    · rw [hnone] at hstatus
      exact absurd hstatus List.not_mem_nil
    · rw [hone] at hstatus
      obtain rfl := List.mem_singleton.mp hstatus
      exact htold

/-- The events that end an upload are as many as the uploads that have been told to have ended. -/
theorem countP_raisedBy (outcomes : List Outcome) :
    (outcomes.flatMap (raisedBy state)).countP (fun event => event.ends.isSome) =
      uploadsEnded outcomes := by
  induction outcomes with
  | nil => rfl
  | cons outcome older ih =>
      have hone : (raisedBy state outcome).countP (fun event => event.ends.isSome) =
          uploadsEnded [outcome] := by
        unfold raisedBy
        split
        · rfl
        · rfl
        · split <;> rfl
        · next hdone hfailed _ =>
            cases outcome with
            | upload event =>
                cases event with
                | cdfileUploaded => exact absurd rfl hdone
                | cdfileUploadFailed => exact absurd rfl hfailed
            | _ => rfl
      rw [List.flatMap_cons, List.countP_append, hone, ih]
      exact (uploadsEnded_append [outcome] older).symm

theorem countP_told (w : Workflow) (input : Input) {newer : List Outcome}
    (hlog : (w.client.step input).log = newer ++ w.client.log) :
    (w.told input).countP (fun event => event.ends.isSome) = uploadsEnded newer := by
  have hadded : added w.client (w.client.step input) = newer.reverse := by
    simp [added, hlog]
  have hstatus : (statusRaised w.client input).countP (fun event => event.ends.isSome) = 0 := by
    rcases statusRaised_cases w.client input with hnone | ⟨event, hone, -, hends⟩
    · rw [hnone]
      rfl
    · simp [hone, hends]
  calc (w.told input).countP (fun event => event.ends.isSome)
      = (newer.reverse.flatMap (raisedBy w.currentUploadLcscFilesState)).countP
          (fun event => event.ends.isSome) := by
        rw [told, List.countP_append, hstatus, hadded, Nat.add_zero]
    _ = uploadsEnded newer.reverse := countP_raisedBy _
    _ = uploadsEnded newer := List.countP_reverse

/-- What is raised is posted in order, and the ends of uploads are logged. -/
theorem foldl_process (events : List UploadLcscFilesEvent) (w : Workflow) :
    events.foldl processUploadLcscFilesEvent w =
      { w with
        posted := w.posted ++ events.map .event
        log := ((events.filterMap UploadLcscFilesEvent.ends).map .ended).reverse ++ w.log } := by
  induction events generalizing w with
  | nil => simp
  | cons event later ih =>
      rw [List.foldl_cons, ih]
      cases hends : event.ends with
      | none => simp [process_other hends, post, hends]
      | some ended => simp [process_ends hends, post, note, hends]

/-- What the client tells of a file is what ends its upload. -/
theorem filter_told {events : List UploadLcscFilesEvent}
    (htold : ∀ event ∈ events, event.IsTold) :
    (events.map FilesHandler.event).filter FilesHandler.advances =
      (events.filter fun event => event.ends.isSome).map .event := by
  rw [List.filter_map]
  exact congrArg _ (List.filter_congr fun event hmem => (htold event hmem).1)

theorem filterMap_ends (events : List UploadLcscFilesEvent) :
    events.filterMap UploadLcscFilesEvent.ends =
      (events.filter fun event => event.ends.isSome).filterMap UploadLcscFilesEvent.ends := by
  rw [List.filterMap_filter]
  exact List.filterMap_congr fun event _ => by cases event.ends <;> rfl

/-- The client takes an input, and tells the end of the upload that is waited for, or none. -/
theorem one_client (hone : OneCleanup w) {input : Input} {newer : List Outcome}
    (hlog : (w.client.step input).log = newer ++ w.client.log)
    (hcounted : uploadsEnded newer + (w.client.step input).uploadsRequested =
      w.client.uploadsRequested) : OneCleanup (w.stepClient input) := by
  obtain ⟨now, token, hprogress, hplace, hholds⟩ := hone
  have hsame : w.stepClient input = (w.told input).foldl processUploadLcscFilesEvent
      { w with client := w.client.step input } := rfl
  rw [hsame, foldl_process]
  have hhandlers := filter_told (isTold_told w input)
  have hends := filterMap_ends (w.told input)
  have hcount := countP_told w input hlog
  rw [List.countP_eq_length_filter] at hcount
  rw [hholds.uploads, ← hcount] at hcounted
  -- the queue behind what has been posted already
  have hqueue : ∀ awaited : List FilesHandler,
      ((w.told input).map FilesHandler.event).filter FilesHandler.advances = awaited →
        (w.posted ++ (w.told input).map FilesHandler.event).filter FilesHandler.advances =
          token.handlers ++ awaited := by
    intro awaited hawaited
    rw [List.filter_append, hholds.handlers, hawaited]
  generalize hending : (w.told input).filter (fun event => event.ends.isSome) = ending at *
  cases ending with
  | nil =>
      have hstill : (w.client.step input).uploadsRequested = token.uploads := by
        simpa using hcounted
      have hposted := (hqueue [] hhandlers).trans (List.append_nil _)
      refine ⟨now, token, ?_, hplace, hposted, hholds.jobs, hstill⟩
      rw [hends]
      exact hprogress
  | cons event others =>
      have hlast : others = [] ∧ token = .upload ∧
          (w.client.step input).uploadsRequested = 0 := by
        cases token with
        | upload =>
            simp only [List.length_cons, Token.uploads] at hcounted
            exact ⟨List.length_eq_zero_iff.mp (by omega), rfl, by omega⟩
        | nothing | handler awaited | job awaited =>
            simp only [List.length_cons, Token.uploads] at hcounted
            omega
      obtain ⟨rfl, rfl, hnone⟩ := hlast
      have hmem : event ∈ (w.told input).filter fun event => event.ends.isSome := by
        rw [hending]
        exact List.mem_singleton_self event
      obtain ⟨ended, hevent⟩ := Option.isSome_iff_exists.mp (List.mem_filter.mp hmem).2
      rw [List.filterMap_cons_some hevent, List.filterMap_nil] at hends
      have hends' : event.ends ≠ none := by simp [hevent]
      obtain ⟨rfl, hended⟩ := hplace.of_upload hends'
      refine ⟨.ended w.uploadLcscFileName, _, ?_, hended, hqueue _ hhandlers, hholds.jobs, hnone⟩
      rw [hends]
      exact progress_cons hprogress

/-- The client takes an input. -/
theorem Sound.client (hsound : Sound w) {input : Input} (houter : input.uploads = false)
    (htimely : w.client.Timely input) : Sound (w.stepClient input) := by
  obtain ⟨newer, hlog⟩ := Client.log_step w.client input
  have hcounted := Client.counted_step hsound.orderly hsound.settling htimely houter
  unfold Client.uploadsCounted at hcounted
  rw [hlog, uploadsEnded_append] at hcounted
  have hone := one_client hsound.one hlog (by omega)
  have hsame : w.stepClient input = (w.told input).foldl processUploadLcscFilesEvent
      { w with client := w.client.step input } := rfl
  rw [hsame, foldl_process] at hone ⊢
  refine ⟨hone, hsound.tidy.append fun handler hmem => ?_,
    Client.Orderly.step hsound.orderly htimely.1,
    Client.Settling.step hsound.settling hsound.orderly input⟩
  obtain ⟨event, htold, rfl⟩ := List.mem_map.mp hmem
  exact (isTold_told w input event htold).2

/-! ## Every run -/

theorem sound_init (evp : Evp) (epochSeconds : UInt32) (commPortLCSC : ℤ) (hour day : ℕ) :
    Sound (init evp epochSeconds commPortLCSC hour day) :=
  ⟨⟨.resting, .nothing, rfl, .idle _, rfl, rfl, rfl⟩, ⟨.nil, fun _ _ _ hmem =>
    absurd hmem List.not_mem_nil⟩, Client.orderly_init evp epochSeconds,
    Client.settling_init evp epochSeconds⟩

theorem Sound.step (hsound : Sound w) {input : FilesInput} (htimely : Timely w input) :
    Sound (w.step input) := by
  cases input with
  | client input => exact hsound.client input.property htimely
  | run =>
      cases hposted : w.posted with
      | nil =>
          have hsame : w.step .run = w := by simp [Workflow.step, hposted]
          rw [hsame]
          exact hsound
      | cons handler rest =>
          have hsame : w.step .run = (w.taken rest).runHandler handler := by
            simp [Workflow.step, hposted, taken]
          rw [hsame]
          exact hsound.run hposted
  | work index answer =>
      cases hjob : w.filePool[index]? with
      | none =>
          have hsame : w.step (.work index answer) = w := by simp [Workflow.step, hjob]
          rw [hsame]
          exact hsound
      | some job =>
          have hsame : w.step (.work index answer) = (w.freed index).finishJob answer job := by
            simp [Workflow.step, hjob, freed]
          rw [hsame]
          exact hsound.work hjob answer
  | uploadLcscCdFiles =>
      obtain ⟨now, token, hprogress, hplace, hholds⟩ := hsound.one
      exact ⟨⟨now, token, hprogress, hplace, hholds.other rfl⟩,
        hsound.tidy.append (by simp [FilesHandler.begins]), hsound.orderly, hsound.settling⟩
  | clock hour day =>
      obtain ⟨now, token, hprogress, hplace, hholds⟩ := hsound.one
      exact ⟨⟨now, token, hprogress, hplace, hholds.of_same rfl rfl rfl⟩, hsound.tidy,
        hsound.orderly, hsound.settling⟩

/-- In every run without a late time-out each file is started in its turn, its upload ends once, it
is cleaned up once, and it is the file that is removed. -/
theorem oneCleanup_of_timely (evp : Evp) (epochSeconds : UInt32) (commPortLCSC : ℤ)
    (hour day : ℕ) (inputs : List FilesInput)
    (htimely : Meets step Timely (init evp epochSeconds commPortLCSC hour day) inputs) :
    OneCleanup (run step (init evp epochSeconds commPortLCSC hour day) inputs) := by
  have hsound : Sound (run step (init evp epochSeconds commPortLCSC hour day) inputs) :=
    run_invariant (fun _ _ hsound hallowed => hsound.step hallowed)
      (sound_init evp epochSeconds commPortLCSC hour day) htimely
  exact hsound.one

/-- Inputs of the client. -/
def outer (inputs : List Input) : List FilesInput :=
  inputs.filterMap fun input =>
    if houter : input.uploads = false then some (.client ⟨input, houter⟩) else none

/-- So many handlers of the workflow are run. -/
def handled (count : ℕ) : List FilesInput := List.replicate count .run

/-- The login fails; a file is found, and the client is asked to upload it. -/
def fileSelected : List FilesInput :=
  outer (Client.runs 1 ++ .writeDone false :: Client.runs 3) ++
    .uploadLcscCdFiles :: handled 2 ++ .work 0 { downloaded := true } :: handled 1 ++
    .work 0 { names := ["update.zip".toList] } :: handled 2 ++
    [.work 0 { fileData := [1, 2, 3, 4, 5, 6, 7] }]

/-- The first chunk is written. -/
def chunkWritten : List FilesInput :=
  outer (Client.runs 2 ++ .writeDone true :: Client.runs 2)

/-- An answer that ends the upload is read. -/
def answerRead : Input := .readDone (packetOf true 0x32 [0x00, 0x00, 0x01]).serialize

/-- The file is cleaned up, and the workflow is told. -/
def fileCleaned : List FilesInput := handled 1 ++ .work 0 {} :: handled 1

attribute [local irreducible] step

theorem oneCleanup_file :
    progress (run step (init Client.plainEvp 0 1 9 1) (fileSelected ++ chunkWritten ++
        outer (answerRead :: Client.runs 3) ++ fileCleaned)).log = some .resting ∧
      OneCleanup (run step (init Client.plainEvp 0 1 9 1) (fileSelected ++ chunkWritten ++
        outer (answerRead :: Client.runs 3) ++ fileCleaned)) :=
  ⟨by decide +kernel, oneCleanup_of_timely Client.plainEvp 0 1 9 1 _ (by decide +kernel)⟩

/-- The response timer runs out while the answer is read. -/
def lateTimeout : List FilesInput := outer (answerRead :: .expire .rsp :: Client.runs 4)

/-- Two cleanups are begun; one has ended when the next file is started, the other then. -/
def nextStarted : List FilesInput :=
  handled 2 ++ .work 0 {} :: handled 1 ++ .uploadLcscCdFiles :: handled 3 ++
    .work 1 { names := ["second.zip".toList] } :: handled 2 ++ .work 0 { failed := true } ::
    handled 1

/-- The answer and the time-out behind it both end the upload; the file is cleaned up twice, and
the second cleanup ends for the next file: its name is cleared while it is being read. -/
theorem not_oneCleanup :
    ¬ OneCleanup (run step (init Client.plainEvp 0 1 9 1)
      (fileSelected ++ chunkWritten ++ lateTimeout)) ∧
    (run step (init Client.plainEvp 0 1 9 1)
      (fileSelected ++ chunkWritten ++ lateTimeout ++ nextStarted)).filePool =
        [.uploadCdFile (localLcscFolderPath ++ "/second.zip".toList)] ∧
    (run step (init Client.plainEvp 0 1 9 1)
      (fileSelected ++ chunkWritten ++ lateTimeout ++ nextStarted)).uploadLcscFileName = [] := by
  refine ⟨fun hone => ?_, by decide +kernel, by decide +kernel⟩
  obtain ⟨now, token, hprogress, -⟩ := hone
  have hnone : progress (run step (init Client.plainEvp 0 1 9 1)
      (fileSelected ++ chunkWritten ++ lateTimeout)).log = none := by
    decide +kernel
  rw [hnone] at hprogress
  exact absurd hprogress (by simp)

end Workflow

end LinuxPBS.Lcsc

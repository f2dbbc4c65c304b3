import Mathlib
import LinuxPBS.Lcsc.Deductions

/-!
# Files that are uploaded whole

The chunks of a file are put behind what is left in `chunkCommandQueue_`, and go out one after
the other, each for an answer that waits for more.  Any other success ends the upload and
reports the file as uploaded, whatever is left; the rest is not cleared and goes out in front
of the next file (`not_uploadSound`).

`uploadSound_of_complete` is about the runs in which a chunk is answered with the end of the
upload only when none is left.
-/

namespace LinuxPBS.Lcsc

open Machine

/-! ## The chunks of a file -/

/-- The chunks carry the bytes of the file in order, in blocks of 512 bytes at most, each behind a
head that ends with its size; an empty block ends the file. -/
def IsSplit (fileData : List UInt8) (chunks : List (List UInt8)) : Prop :=
  ∃ (blocks : List (List UInt8)) (head : ℕ → List UInt8) (final : List UInt8),
    blocks.flatten = fileData ∧
    (∀ block ∈ blocks, block ≠ [] ∧ block.length ≤ uploadChunkSize) ∧
    chunks = blocks.mapIdx (fun index block => head index ++ (sizeField block ++ block)) ++
      [final ++ sizeField []]

/-- The blocks of the first `count` offsets. -/
theorem flatten_blocks (data : List UInt8) (size count : ℕ) :
    ((List.range count).map fun block => (data.drop (block * size)).take size).flatten =
      data.take (count * size) := by
  induction count with
  | zero => simp
  | succ count ih =>
      rw [List.range_succ, List.map_append, List.flatten_append, ih, Nat.succ_mul, List.take_add]
      simp

theorem flatten_chunkData (data : List UInt8) {size : ℕ} (hsize : 0 < size) :
    (chunkData data size).flatten = data := by
  rw [chunkData, flatten_blocks]
  refine List.take_of_length_le ?_
  have hdivide := Nat.div_add_mod (data.length + size - 1) size
  have hrest := Nat.mod_lt (data.length + size - 1) hsize
  rw [Nat.mul_comm] at hdivide
  omega

theorem ne_nil_of_mem_chunkData {data block : List UInt8} {size : ℕ} (hsize : 0 < size)
    (hmem : block ∈ chunkData data size) : block ≠ [] := by
  obtain ⟨index, hindex, rfl⟩ := List.mem_map.mp hmem
  rw [List.mem_range, Nat.lt_div_iff_mul_lt hsize] at hindex
  refine List.ne_nil_of_length_pos ?_
  rw [List.length_take, List.length_drop]
  omega

theorem isSplit_cfgChunks (fileData : List UInt8) : IsSplit fileData (cfgChunks fileData) := by
  refine ⟨chunkData fileData uploadChunkSize, fun _ => [], [],
    flatten_chunkData fileData (by decide), fun block hmem => ?_, ?_⟩
  · exact ⟨ne_nil_of_mem_chunkData (by decide) hmem, length_le_of_mem_chunkData hmem⟩
  · have hmap : ∀ blocks : List (List UInt8), blocks.map (fun block => sizeField block ++ block) =
        blocks.mapIdx fun _ block => [] ++ (sizeField block ++ block) := by
      intro blocks
      refine List.ext_getElem (by simp) fun index _ _ => ?_
      simp
    rw [cfgChunks, hmap]
    rfl

theorem isSplit_listChunks (issuerOffset : UInt8) (fileData : List UInt8) :
    IsSplit fileData (listChunks issuerOffset fileData) := by
  refine ⟨chunkData fileData uploadChunkSize, fun index => [if index = 0 then
    ((chunkData fileData uploadChunkSize).headD []).getD 5 0 - issuerOffset else 0x00], [0x00],
    flatten_chunkData fileData (by decide), fun block hmem => ?_, ?_⟩
  · exact ⟨ne_nil_of_mem_chunkData (by decide) hmem, length_le_of_mem_chunkData hmem⟩
  · have hmap : ∀ blocks : List (List UInt8),
        blocks.mapIdx (fun index chunk =>
          (if index = 0 then chunk.getD 5 0 - issuerOffset else 0x00) ::
            (sizeField chunk ++ chunk)) =
        blocks.mapIdx fun index block =>
          [if index = 0 then (blocks.headD []).getD 5 0 - issuerOffset else 0x00] ++
            (sizeField block ++ block) := by
      intro blocks
      refine List.ext_getElem (by simp) fun index hindex _ => ?_
      cases index with
      | zero => cases blocks <;> simp_all
      | succ index => simp
    rw [listChunks, hmap]
    rfl

/-- The commands of the functions that upload a file. -/
theorem isSplit_of_loaded {command : CommandWithData} (hloaded : Client.Loaded command)
    (hchunk : isChunkedCommand command.cmd = true) :
    ∃ fileData chunks, command.data = .chunks chunks ∧ IsSplit fileData chunks := by
  obtain ⟨request, hcommand⟩ := hloaded hchunk
  cases request with
  | uploadCfgFile fileData =>
      simp only [Request.command] at hcommand
      split at hcommand
      · obtain rfl := Option.some.inj hcommand
        exact ⟨fileData, _, rfl, isSplit_cfgChunks fileData⟩
      · exact absurd hcommand (by simp)
  | uploadCilFile fileData | uploadBlFile fileData =>
      simp only [Request.command] at hcommand
      split at hcommand
      · obtain rfl := Option.some.inj hcommand
        exact ⟨fileData, _, rfl, isSplit_listChunks _ fileData⟩
      · exact absurd hcommand (by simp)
  | _ =>
      obtain rfl := Option.some.inj hcommand
      exact absurd hchunk (by simp [isChunkedCommand])

/-! ## What the log tells of an upload -/

/-- An upload that has been taken from the queue, the chunks left to prepare, and whether the next
one may be sent. -/
structure Upload where
  command : CommandWithData
  left : List CommandWithData
  due : Bool

/-- The upload that was taken from the queue last, unless another command has been since. -/
def underway : List Outcome → Option Upload
  | [] => none
  | .dequeued command :: _ =>
      if isChunkedCommand command.cmd then some ⟨command, Client.chunksOf command, true⟩ else none
  | .prepared _ _ :: older =>
      (underway older).map fun upload => { upload with left := upload.left.tail, due := false }
  | .acknowledged _ :: older => (underway older).map fun upload => { upload with due := true }
  | _ :: older => underway older

/-- Every upload is one of a file that has been split; the chunks prepared are those of the upload
that is under way, in order, each when the one before has been written and acknowledged; and a
file is reported as uploaded when the last one has been written. -/
def UploadsWhole : List Outcome → Prop
  | [] => True
  | .dequeued command :: older =>
      (isChunkedCommand command.cmd = true →
        ∃ fileData chunks, command.data = .chunks chunks ∧ IsSplit fileData chunks) ∧
      UploadsWhole older
  | .prepared command _ :: older =>
      (match underway older with
        | some upload => upload.due = true ∧ upload.left.head? = some command
        | none => isChunkedCommand command.cmd = false) ∧
      UploadsWhole older
  | .acknowledged _ :: older => LastWritten older ∧ UploadsWhole older
  | .upload .cdfileUploaded :: older =>
      ((∃ upload, underway older = some upload ∧ upload.left = []) ∧ LastWritten older) ∧
      UploadsWhole older
  | _ :: older => UploadsWhole older

/-- The entries that have to do with the transfer of a file. -/
def Outcome.isTransfer : Outcome → Bool
  | .dequeued _ | .prepared _ _ | .acknowledged _ | .upload .cdfileUploaded => true
  | _ => false

variable {log newer : List Outcome} {cmd : Cmd}

theorem others_keep (log : List Outcome) (hothers : ∀ outcome ∈ newer, outcome.isTransfer = false) :
    underway (newer ++ log) = underway log ∧ (UploadsWhole log → UploadsWhole (newer ++ log)) := by
  induction newer with
  | nil => exact ⟨rfl, id⟩
  | cons outcome newer ih =>
      have htail := ih fun other hmem => hothers other (List.mem_cons_of_mem _ hmem)
      have hother := hothers outcome List.mem_cons_self
      cases outcome with
      | dequeued | prepared | acknowledged => exact absurd hother (by simp [Outcome.isTransfer])
      | upload event =>
          cases event with
          | cdfileUploaded => exact absurd hother (by simp [Outcome.isTransfer])
          | cdfileUploadFailed => exact htail
      | _ => exact htail

theorem isTransfer_wire {outcome : Outcome} (hwire : outcome.isWire = true) :
    outcome.isTransfer = false := by
  cases outcome <;> first | rfl | exact absurd hwire Bool.false_ne_true

/-- The reports on a command that is no upload. -/
theorem isTransfer_report (hplain : isChunkedCommand cmd = false) {outcome : Outcome}
    (hreport : outcome.isReportOf cmd = true) : outcome.isTransfer = false := by
  cases outcome with
  | upload event =>
      cases event with
      | cdfileUploaded => exact absurd (hplain.symm.trans hreport) (by decide)
      | cdfileUploadFailed => rfl
  | acknowledged other => exact absurd (hplain.symm.trans hreport) (by decide)
  | dequeued | prepared | handed | written => exact absurd hreport Bool.false_ne_true
  | _ => rfl

namespace Client

/-- Every upload so far has been whole. -/
def UploadSound (c : Client) : Prop := UploadsWhole c.log

/-- An answer that ends an upload comes for the last chunk. -/
def EndsLast (c : Client) : Prop :=
  match checkResponse c.currentCmd c.receiver.rxBuffer with
  | .ok msg => chunkEvent msg.payload = .allChunkCommandCompleted → c.chunkCommandQueue = []
  | .error _ => True

theorem endsLast_iff (c : Client) :
    EndsLast c ↔ ∀ msg ∈ (checkResponse c.currentCmd c.receiver.rxBuffer).toOption,
      chunkEvent msg.payload = .allChunkCommandCompleted → c.chunkCommandQueue = [] := by
  unfold EndsLast
  cases checkResponse c.currentCmd c.receiver.rxBuffer with
  | ok msg => simp [Except.toOption]
  | error event => simp [Except.toOption]

instance (c : Client) : Decidable (EndsLast c) := decidable_of_iff _ (endsLast_iff c).symm

/-- No chunk but the last is answered with the end of the upload, and no write timer runs out while
a frame waits for the silence of the line. -/
def Complete (c : Client) (input : Input) : Prop :=
  Patient c input ∧
    match input, c.posted with
    | .run, .event .responseReceived :: _ =>
        c.currentState.phase = .waiting → isChunkedCommand c.currentCmd = true → EndsLast c
    | _, _ => True

/-- The event whose handler an input runs. -/
def ranEvent (c : Client) : Input → Option Event
  | .run =>
      match c.posted with
      | .event event :: _ => some event
      | _ => none
  | _ => none

theorem complete_iff (c : Client) (input : Input) :
    Complete c input ↔ Patient c input ∧ (ranEvent c input = some .responseReceived →
      c.currentState.phase = .waiting → isChunkedCommand c.currentCmd = true → EndsLast c) := by
  unfold Complete ranEvent
  refine and_congr_right fun _ => ?_
  cases input with
  | run =>
    rcases c.posted with _ | ⟨handler, rest⟩
    · simp
    · cases handler with
      | event event => cases event <;> simp
      | _ => simp
  | _ => simp

instance (c : Client) (input : Input) : Decidable (Complete c input) :=
  decidable_of_iff _ (complete_iff c input).symm

/-! ## The invariant -/

/-- `chunkCommandQueue_` holds what is left of the upload that is under way, and nothing else. -/
structure Uploading (c : Client) : Prop where
  whole : UploadsWhole c.log
  empty : c.currentState = .idle ∨ isChunkedCommand c.currentCmd = false →
    c.chunkCommandQueue = []
  left : c.currentState ≠ .idle → isChunkedCommand c.currentCmd = true →
    ∃ upload, underway c.log = some upload ∧ upload.left = c.chunkCommandQueue ∧
      (c.currentState.phase = .waiting → .event .sendNextChunkCommand ∈ c.posted →
        upload.due = true)
  ended : c.currentState.phase = .waiting → .event .allChunkCommandCompleted ∈ c.posted →
    c.chunkCommandQueue = []

variable {c c' d : Client} {rest : List Handler}

theorem Uploading.between (huploading : Uploading c) (hbetween : Between c c') :
    Uploading c' := by
  obtain ⟨newer, hlog, hwires⟩ := hbetween.log
  obtain ⟨hsame, hwhole⟩ := others_keep c.log fun outcome hmem =>
    isTransfer_wire (hwires outcome hmem)
  have hmem : ∀ {event : Event}, event.kind = .settle → .event event ∈ c'.posted →
      .event event ∈ c.posted := by
    intro event hkind hmem
    have hsettle := mem_settles.mpr ⟨hmem, hkind⟩
    rw [hbetween.settles] at hsettle
    exact (mem_settles.mp hsettle).1
  refine ⟨?_, ?_, ?_, ?_⟩
  · rw [hlog]
    exact hwhole huploading.whole
  · rw [hbetween.state, hbetween.cmd, hbetween.chunks]
    exact huploading.empty
  · rw [hbetween.state, hbetween.cmd, hbetween.chunks, hlog, hsame]
    intro hbusy hchunk
    obtain ⟨upload, hunderway, hleft, hdue⟩ := huploading.left hbusy hchunk
    exact ⟨upload, hunderway, hleft, fun hwaiting hnext => hdue hwaiting (hmem rfl hnext)⟩
  · rw [hbetween.state, hbetween.chunks]
    exact fun hwaiting hend => huploading.ended hwaiting (hmem rfl hend)

theorem enter_chunks (c : Client) (next : State) :
    (c.enter next).chunkCommandQueue = c.chunkCommandQueue := by
  unfold enter
  simp only
  split <;> rfl

/-- The client becomes idle, and no chunk is left. -/
theorem uploading_enter_idle (hwhole : UploadsWhole d.log) (hnone : d.chunkCommandQueue = []) :
    Uploading (d.enter .idle) := by
  refine ⟨?_, fun _ => ?_, fun hbusy => absurd (enter_state d _) hbusy, fun hwaiting => ?_⟩
  · rwa [enter_log]
  · rwa [enter_chunks]
  · rw [enter_state] at hwaiting
    exact absurd hwaiting (by decide)

/-- The client sends a command, or the next chunk of an upload. -/
theorem uploading_enter_sending {next : State} (hnext : next.phase = .sending)
    (hwhole : UploadsWhole d.log)
    (hempty : isChunkedCommand d.currentCmd = false → d.chunkCommandQueue = [])
    (hleft : isChunkedCommand d.currentCmd = true →
      ∃ upload, underway d.log = some upload ∧ upload.left = d.chunkCommandQueue) :
    Uploading (d.enter next) := by
  have hwaiting : (d.enter next).currentState.phase ≠ .waiting := by
    rw [enter_state, hnext]
    decide
  refine ⟨?_, fun hwhen => ?_, fun _ hchunk => ?_, fun hphase => absurd hphase hwaiting⟩
  · rwa [enter_log]
  · rw [enter_chunks]
    rw [enter_state, enter_cmd] at hwhen
    rcases hwhen with hidle | hplain
    · rw [hidle] at hnext
      exact absurd hnext (by decide)
    · exact hempty hplain
  · rw [enter_cmd] at hchunk
    obtain ⟨upload, hunderway, hleft⟩ := hleft hchunk
    rw [enter_log, enter_chunks]
    exact ⟨upload, hunderway, hleft, fun hphase => absurd hphase hwaiting⟩

/-- What is prepared and sent. -/
theorem prepareAndWrite_upload (hresting : Resting d.transmission) (command : CommandWithData) :
    ∃ frame newer, (d.prepareAndWrite command).log = newer ++ .prepared command frame :: d.log ∧
      (∀ outcome ∈ newer, outcome.isTransfer = false) ∧
      (d.prepareAndWrite command).currentCmd = d.currentCmd ∧
      (d.prepareAndWrite command).chunkCommandQueue = d.chunkCommandQueue := by
  rw [prepareAndWrite_eq hresting]
  have hbetween := between_startWrite (d.prepared command)
  obtain ⟨newer, hlog, hwires⟩ := hbetween.log
  exact ⟨d.nextFrame command, newer, hlog, fun outcome hmem => isTransfer_wire
    (hwires outcome hmem), hbetween.cmd, hbetween.chunks⟩

/-- A failure is no part of a transfer. -/
theorem failure_others (hbusy : c.currentState ≠ .idle) (status : CscEvents) :
    ∃ newer, (c.handleCmdErrorOrTimeout status).log = newer ++ c.log ∧
      (∀ outcome ∈ newer, outcome.isTransfer = false) ∧
      (c.handleCmdErrorOrTimeout status).chunkCommandQueue = c.chunkCommandQueue := by
  have hnoted : ∀ command, ∃ newer,
      ((c.note (.failed c.currentCmd status)).enqueueCommandToFrontOnIoThread command).log =
        newer ++ c.log ∧ (∀ outcome ∈ newer, outcome.isTransfer = false) ∧
      ((c.note (.failed c.currentCmd status)).enqueueCommandToFrontOnIoThread
        command).chunkCommandQueue = c.chunkCommandQueue := by
    intro command
    obtain ⟨commandQueue, heq⟩ := enqueueCommandToFrontOnIoThread_busy
      (c := c.note (.failed c.currentCmd status)) hbusy command
    rw [heq]
    exact ⟨[.failed c.currentCmd status], rfl, by simp [Outcome.isTransfer], rfl⟩
  have hsilent : ∃ newer, (c.note (.failed c.currentCmd status)).log = newer ++ c.log ∧
      (∀ outcome ∈ newer, outcome.isTransfer = false) ∧
      (c.note (.failed c.currentCmd status)).chunkCommandQueue = c.chunkCommandQueue :=
    ⟨[.failed c.currentCmd status], rfl, by simp [Outcome.isTransfer], rfl⟩
  unfold handleCmdErrorOrTimeout
  simp only
  split
  · split
    · exact hnoted _
    · exact hsilent
  · split
    · exact hnoted _
    · exact hsilent
  · exact ⟨[.event _ status none, .failed c.currentCmd status], rfl,
      by simp [Outcome.isTransfer], rfl⟩

/-- The event that the answer to a chunk posts, and what it tells of the transfer. -/
def chunkAnswer (cmd : Cmd) (msgDataBuff : List UInt8) : Event × List Outcome :=
  match checkResponse cmd msgDataBuff with
  | .error _ => (.responseRejected, [])
  | .ok msg => (chunkEvent msg.payload, [chunkReport cmd msg.payload])

theorem handleReceivedCmd_chunk (hbusy : c.currentState ≠ .idle)
    (hchunk : isChunkedCommand c.currentCmd = true) (msgDataBuff : List UInt8) :
    ∃ newer d, (∀ outcome ∈ newer, outcome.isTransfer = false) ∧ (c.cancel .rsp).Aside d ∧
      d.log = newer ++ ((chunkAnswer c.currentCmd msgDataBuff).2 ++ c.log) ∧
      c.handleReceivedCmd msgDataBuff =
        d.processEvent (chunkAnswer c.currentCmd msgDataBuff).1 := by
  have hbusy' : (c.cancel .rsp).currentState ≠ .idle := hbusy
  unfold chunkAnswer
  cases hcheck : checkResponse c.currentCmd msgDataBuff with
  | error status =>
      obtain ⟨newer, hlog, hothers, -⟩ := failure_others hbusy' status
      have haside := aside_failure hbusy' (checkResponse_error hcheck)
      have hcmd : isChunkedCommand
          ((c.cancel .rsp).handleCmdErrorOrTimeout status).currentCmd = true := by
        rw [haside.cmd]
        exact hchunk
      rw [handleReceivedCmd_error hcheck, if_pos hcmd]
      refine ⟨.upload .cdfileUploadFailed :: newer, _, ?_, haside.trans (aside_note rfl), ?_, rfl⟩
      · intro outcome hmem
        rcases List.mem_cons.mp hmem with rfl | hmem
        · rfl
        · exact hothers outcome hmem
      · exact congrArg _ hlog
  | ok msg =>
      obtain ⟨e, haside, hlog, heq⟩ := handleChunkResponse_eq hbusy' msg.payload
      have hreport : (c.cancel .rsp).Aside ((c.cancel .rsp).note
          (chunkReport (c.cancel .rsp).currentCmd msg.payload)) := by
        refine aside_note ?_
        unfold chunkReport
        split
        · split
          · exact hchunk
          · exact hchunk
        · rfl
      have hstill := (hreport.trans haside).trans (aside_noteStatus
        ((c.cancel .rsp).handleChunkResponse msg.payload).2 msg.payload)
      have hcmd : isChunkedCommand (e.noteStatus
          ((c.cancel .rsp).handleChunkResponse msg.payload).2 msg.payload).currentCmd = true := by
        rw [hstill.cmd]
        exact hchunk
      have hnoted : ∃ newer, (e.noteStatus ((c.cancel .rsp).handleChunkResponse
          msg.payload).2 msg.payload).log = newer ++ e.log ∧
          ∀ outcome ∈ newer, outcome.isTransfer = false := by
        unfold noteStatus
        split
        · exact ⟨[_], rfl, by simp [Outcome.isTransfer]⟩
        · exact ⟨[], rfl, by simp⟩
      obtain ⟨newer, hnewer, hothers⟩ := hnoted
      refine ⟨newer, _, hothers, hstill, ?_, ?_⟩
      · rw [hnewer, hlog]
        rfl
      · rw [handleReceivedCmd_ok hcheck]
        simp only [handleCmdResponse_chunk (c := c.cancel .rsp) hchunk, heq,
          noteStatus_processEvent]
        exact if_neg (by simpa [processEvent, post] using hcmd)

/-- The report on the answer to a chunk fits the upload that is under way. -/
theorem whole_chunkReport {payload : List UInt8} {upload : Upload} (hwhole : UploadsWhole log)
    (hunderway : underway log = some upload) (hwritten : LastWritten log)
    (hend : chunkEvent payload = .allChunkCommandCompleted → upload.left = []) :
    UploadsWhole (chunkReport cmd payload :: log) ∧
      ∃ after, underway (chunkReport cmd payload :: log) = some after ∧
        after.left = upload.left ∧
        (chunkEvent payload = .sendNextChunkCommand → after.due = true) := by
  unfold chunkEvent at hend ⊢
  unfold chunkReport
  split
  · split
    · exact ⟨⟨hwritten, hwhole⟩, { upload with due := true }, by simp [underway, hunderway], rfl,
        fun _ => rfl⟩
    · next hresult hmore =>
        rw [if_pos hresult, if_neg hmore] at hend
        exact ⟨⟨⟨⟨upload, hunderway, hend rfl⟩, hwritten⟩, hwhole⟩, upload, hunderway, rfl,
          fun hnext => absurd hnext (by decide)⟩
  · exact ⟨hwhole, upload, hunderway, rfl, fun hnext => absurd hnext (by decide)⟩

/-! ## Every step keeps the uploads whole -/

/-- A response is handled. -/
theorem Uploading.respond (huploading : Uploading c) (horderly : Orderly c)
    (hwaiting : c.currentState.phase = .waiting)
    (hposted : c.posted = .event .responseReceived :: rest)
    (hend : isChunkedCommand c.currentCmd = true → EndsLast c) :
    Uploading (c.taken rest).handleRxBuffer := by
  have hbusy : (c.taken rest).currentState ≠ .idle := by
    intro hidle
    rw [show c.currentState = _ from hidle] at hwaiting
    exact absurd hwaiting (by decide)
  have hcarried := horderly.carried
  have hsorted := horderly.sorted
  rw [hwaiting] at hcarried
  rw [hwaiting, kinds_of_posted hposted] at hsorted
  have hnone : settles rest = [] := settles_eq_nil (c := c.taken rest)
    (hsorted.head (by simp [Ordered, Handler.kind, Event.kind]))
  have hrest : ∀ {event : Event}, event.kind = .settle → .event event ∉ rest := by
    intro event hkind hmem
    exact absurd (hnone ▸ mem_settles.mpr ⟨hmem, hkind⟩) List.not_mem_nil
  by_cases hchunk : isChunkedCommand c.currentCmd = true
  · obtain ⟨upload, hunderway, hleft, -⟩ := huploading.left hbusy hchunk
    obtain ⟨newer, d, hothers, haside, hlog, heq⟩ := handleReceivedCmd_chunk
      (c := { c.taken rest with receiver := { c.receiver with rxBuffer := [] } }) hbusy hchunk
      c.receiver.rxBuffer
    have hsame : (c.taken rest).handleRxBuffer =
        d.processEvent (chunkAnswer c.currentCmd c.receiver.rxBuffer).1 := heq
    have hlog : d.log = newer ++ ((chunkAnswer c.currentCmd c.receiver.rxBuffer).2 ++ c.log) :=
      hlog
    obtain ⟨hkeep, hwhole⟩ :=
      others_keep ((chunkAnswer c.currentCmd c.receiver.rxBuffer).2 ++ c.log) hothers
    have hreport : UploadsWhole ((chunkAnswer c.currentCmd c.receiver.rxBuffer).2 ++ c.log) ∧
        ∃ after, underway ((chunkAnswer c.currentCmd c.receiver.rxBuffer).2 ++ c.log) =
            some after ∧ after.left = upload.left ∧
          ((chunkAnswer c.currentCmd c.receiver.rxBuffer).1 = .sendNextChunkCommand →
            after.due = true) := by
      have hend := hend hchunk
      unfold EndsLast at hend
      unfold chunkAnswer
      cases hcheck : checkResponse c.currentCmd c.receiver.rxBuffer with
      | error status =>
          exact ⟨huploading.whole, upload, hunderway, rfl, fun hnext => absurd hnext (by simp)⟩
      | ok msg =>
          rw [hcheck] at hend
          exact whole_chunkReport huploading.whole hunderway hcarried.2
            fun hcompleted => hleft.trans (hend hcompleted)
    obtain ⟨hnew, after, hafter, hstill, hdue⟩ := hreport
    have hchunks : d.chunkCommandQueue = c.chunkCommandQueue := by
      obtain ⟨_, _, _, rfl, -⟩ := haside
      rfl
    have hposts : d.posted = rest := by
      obtain ⟨_, _, _, rfl, -⟩ := haside
      rfl
    have hlast : ∀ {event : Event}, event.kind = .settle →
        .event event ∈ (d.processEvent (chunkAnswer c.currentCmd c.receiver.rxBuffer).1).posted →
        (chunkAnswer c.currentCmd c.receiver.rxBuffer).1 = event := by
      intro event hkind hmem
      rcases List.mem_append.mp hmem with hold | hnew
      · exact absurd (hposts ▸ hold) (hrest hkind)
      · exact (Handler.event.inj (List.mem_singleton.mp hnew)).symm
    have hstate : (d.processEvent (chunkAnswer c.currentCmd c.receiver.rxBuffer).1).currentState =
        c.currentState := haside.state
    have hcmd : (d.processEvent (chunkAnswer c.currentCmd c.receiver.rxBuffer).1).currentCmd =
        c.currentCmd := haside.cmd
    rw [hsame]
    refine ⟨?_, fun hwhen => ?_, fun _ _ => ⟨after, ?_, ?_, fun _ hmem => ?_⟩, fun _ hmem => ?_⟩
    · rw [show (d.processEvent _).log = _ from hlog]
      exact hwhole hnew
    · rw [hstate, hcmd, hchunk] at hwhen
      exact absurd hwhen (by simp [show c.currentState ≠ .idle from hbusy])
    · rw [show (d.processEvent _).log = _ from hlog, hkeep]
      exact hafter
    · exact hstill.trans (hleft.trans hchunks.symm)
    · exact hdue (hlast rfl hmem)
    · have hcompleted := hlast rfl hmem
      have hend := hend hchunk
      unfold EndsLast at hend
      unfold chunkAnswer at hcompleted
      cases hcheck : checkResponse c.currentCmd c.receiver.rxBuffer with
      | error status =>
          rw [hcheck] at hcompleted
          exact absurd hcompleted (by simp)
      | ok msg =>
          rw [hcheck] at hcompleted hend
          exact hchunks.trans (hend hcompleted)
  · have hplain : isChunkedCommand c.currentCmd = false := Bool.eq_false_iff.mpr hchunk
    obtain ⟨settle, d, hends, ⟨newer, _, _, rfl, hreports, -⟩, hsame⟩ := handleRxBuffer_eq hbusy
    obtain ⟨-, hwhole⟩ := others_keep c.log fun outcome hmem =>
      isTransfer_report hplain (hreports outcome hmem)
    have hnone : c.chunkCommandQueue = [] := huploading.empty (.inr hplain)
    rw [hsame]
    exact ⟨hwhole huploading.whole, fun _ => hnone,
      fun _ hchunk => absurd (hplain.symm.trans hchunk) (by decide), fun _ _ => hnone⟩

theorem Uploading.turn (huploading : Uploading c) (horderly : Orderly c) {event : Event}
    (hposted : c.posted = .event event :: rest) (hcomplete : Complete c .run)
    (hturn : Turn c rest event c') : Uploading c' := by
  have hbusy : ∀ state, c.currentState = state → state ≠ .idle →
      (c.taken rest).currentState ≠ .idle := by
    rintro _ rfl hbusy
    exact hbusy
  have hsuited := horderly.suited
  have hfailed : ∀ status, (c.taken rest).currentState ≠ .idle →
      UploadsWhole ((c.taken rest).handleCmdErrorOrTimeout status).log ∧
      ((c.taken rest).handleCmdErrorOrTimeout status).chunkCommandQueue = c.chunkCommandQueue := by
    intro status hbusy
    obtain ⟨newer, hlog, hothers, hchunks⟩ := failure_others hbusy status
    rw [hlog]
    exact ⟨(others_keep _ hothers).2 huploading.whole, hchunks⟩
  cases hturn with
  | ignored =>
      exact ⟨huploading.whole, huploading.empty, fun hbusy hchunk => by
        obtain ⟨upload, hunderway, hleft, hdue⟩ := huploading.left hbusy hchunk
        exact ⟨upload, hunderway, hleft, fun hwaiting hmem =>
          hdue hwaiting (hposted ▸ List.mem_cons_of_mem _ hmem)⟩,
        fun hwaiting hmem => huploading.ended hwaiting (hposted ▸ List.mem_cons_of_mem _ hmem)⟩
  | @launch command others hstate hqueue hplain =>
      obtain ⟨hresting, -, -⟩ := horderly.begin hstate hposted rfl
      have hresting : Resting ((c.taken rest).dequeued command others).transmission := hresting
      obtain ⟨frame, newer, hlog, hothers, hcmd, hchunks⟩ :=
        prepareAndWrite_upload hresting command
      have hnone : c.chunkCommandQueue = [] := huploading.empty (.inl hstate)
      have hunderway : underway (.dequeued command :: c.log) = none := by simp [underway, hplain]
      have hprepared : UploadsWhole (.prepared command frame :: .dequeued command :: c.log) := by
        refine ⟨?_, fun hchunk => absurd (hplain.symm.trans hchunk) (by decide), huploading.whole⟩
        rw [hunderway]
        exact hplain
      refine uploading_enter_sending rfl ?_ (fun _ => ?_) fun hchunk => ?_
      · exact hlog ▸ (others_keep _ hothers).2 hprepared
      · exact hchunks.trans hnone
      · have hkind : isChunkedCommand _ = isChunkedCommand command.cmd :=
          congrArg isChunkedCommand hcmd
        exact absurd (hplain.symm.trans (hkind.symm.trans hchunk)) (by decide)
  | @launchChunks command chunk others chunks hstate hqueue hchunk hfirst =>
      obtain ⟨hresting, -, -⟩ := horderly.begin hstate hposted rfl
      have hresting : Resting
          (((c.taken rest).dequeued command others).withChunks chunks).transmission := hresting
      obtain ⟨frame, newer, hlog, hothers, hcmd, hchunks⟩ := prepareAndWrite_upload hresting chunk
      have hnone : c.chunkCommandQueue = [] := huploading.empty (.inl hstate)
      rw [hnone, List.nil_append] at hfirst
      have hunderway : underway (.dequeued command :: c.log) =
          some ⟨command, chunk :: chunks, true⟩ := by
        simp [underway, hchunk, hfirst]
      have hloaded : Loaded command := horderly.loaded command (hqueue ▸ List.mem_cons_self)
      have hprepared : UploadsWhole (.prepared chunk frame :: .dequeued command :: c.log) := by
        refine ⟨?_, isSplit_of_loaded hloaded, huploading.whole⟩
        rw [hunderway]
        exact ⟨rfl, rfl⟩
      obtain ⟨hsame, hwhole⟩ := others_keep
        (.prepared chunk frame :: .dequeued command :: c.log) hothers
      refine uploading_enter_sending rfl ?_ (fun hplain => ?_) fun _ => ?_
      · exact hlog ▸ hwhole hprepared
      · have hkind : isChunkedCommand _ = isChunkedCommand command.cmd :=
          congrArg isChunkedCommand hcmd
        exact absurd (hplain.symm.trans (hkind.trans hchunk)) (by decide)
      · refine ⟨⟨command, chunks, false⟩, ?_, hchunks.symm⟩
        have hafter : underway (.prepared chunk frame :: .dequeued command :: c.log) =
            some ⟨command, chunks, false⟩ := by
          simp [underway, hchunk, hfirst]
        exact hlog ▸ hsame.trans hafter
  | complete hsending =>
      have hsorted := horderly.sorted
      rw [hsending, kinds_of_posted hposted] at hsorted
      have hnone : settles rest = [] :=
        settles_eq_nil (c := c.taken rest) hsorted.content.tail.2.2
      have hsettles : ∀ {event : Event} {next : State} {d : Client}, d.posted = rest →
          event.kind = .settle → .event event ∉ (d.enter next).posted := by
        rintro event next d rfl hkind hmem
        have hsettle := mem_settles.mpr ⟨hmem, hkind⟩
        rw [settles_enter, hnone] at hsettle
        exact absurd hsettle List.not_mem_nil
      have hbusy : c.currentState ≠ .idle := by
        intro hidle
        rw [hidle] at hsending
        exact absurd hsending (by decide)
      have hwaiting : waitingState c.currentState ≠ .idle := by
        cases c.currentState <;> decide
      refine ⟨?_, fun hwhen => ?_, fun _ hchunk => ?_, fun _ hmem => ?_⟩
      · rw [enter_log]
        exact huploading.whole
      · rw [enter_chunks]
        rw [enter_state, enter_cmd] at hwhen
        exact huploading.empty (.inr (hwhen.resolve_left hwaiting))
      · rw [enter_cmd] at hchunk
        obtain ⟨upload, hunderway, hleft, -⟩ := huploading.left hbusy hchunk
        rw [enter_log, enter_chunks]
        exact ⟨upload, hunderway, hleft, fun _ hmem => absurd hmem (hsettles rfl rfl)⟩
      · exact absurd hmem (hsettles rfl rfl)
  | fail hstate =>
      rw [hstate] at hsuited
      obtain ⟨hwhole, hchunks⟩ := hfailed .sSendcmdfail (hbusy _ hstate (by decide))
      exact uploading_enter_idle hwhole (hchunks.trans (huploading.empty (.inr hsuited)))
  | failChunks hstate =>
      obtain ⟨hwhole, -⟩ := hfailed .sSendcmdfail (hbusy _ hstate (by decide))
      exact uploading_enter_idle (d := Client.failChunks _ _) hwhole rfl
  | timeout hstate =>
      rw [hstate] at hsuited
      obtain ⟨hwhole, hchunks⟩ := hfailed .sTimeout (hbusy _ hstate (by decide))
      exact uploading_enter_idle hwhole (hchunks.trans (huploading.empty (.inr hsuited)))
  | timeoutChunks hstate =>
      obtain ⟨hwhole, -⟩ := hfailed .sTimeout (hbusy _ hstate (by decide))
      exact uploading_enter_idle (d := Client.failChunks _ _) hwhole rfl
  | respond hwaiting =>
      refine huploading.respond horderly hwaiting hposted ?_
      have hrule := hcomplete.2
      rw [hposted] at hrule
      exact hrule hwaiting
  | finish hstate =>
      rw [hstate] at hsuited
      exact uploading_enter_idle (d := c.taken rest) huploading.whole
        (huploading.empty (.inr hsuited))
  | completeChunks hstate =>
      exact uploading_enter_idle (d := c.taken rest) huploading.whole
        (huploading.ended (by rw [hstate]; rfl) (hposted ▸ List.mem_cons_self))
  | rejectChunks =>
      exact uploading_enter_idle (d := Client.withChunks _ []) huploading.whole rfl
  | breakChunks hstate =>
      obtain ⟨hwhole, -⟩ := hfailed .rNotRespCmd (hbusy _ hstate (by decide))
      exact uploading_enter_idle (d := Client.withChunks _ []) hwhole rfl
  | @next chunk chunks hstate hfirst =>
      have hwaiting : c.currentState.phase = .waiting := by rw [hstate]; rfl
      rw [hstate] at hsuited
      obtain ⟨upload, hunderway, hleft, hdue⟩ :=
        huploading.left (hbusy _ hstate (by decide)) hsuited
      have hdue := hdue hwaiting (hposted ▸ List.mem_cons_self)
      obtain ⟨hresting, -, -⟩ := horderly.resume hwaiting hposted rfl
      have hresting : Resting ((c.taken rest).withChunks chunks).transmission := hresting
      obtain ⟨frame, newer, hlog, hothers, hcmd, hchunks⟩ := prepareAndWrite_upload hresting chunk
      have hprepared : UploadsWhole (.prepared chunk frame :: c.log) := by
        refine ⟨?_, huploading.whole⟩
        rw [hunderway]
        exact ⟨hdue, by rw [hleft, hfirst]; rfl⟩
      have hafter : underway (.prepared chunk frame :: c.log) =
          some { upload with left := chunks, due := false } := by
        simp [underway, hunderway, hleft, hfirst]
      obtain ⟨hsame, hwhole⟩ := others_keep (.prepared chunk frame :: c.log) hothers
      refine uploading_enter_sending rfl ?_ (fun hplain => ?_) fun _ => ?_
      · exact hlog ▸ hwhole hprepared
      · have hkind : isChunkedCommand _ = isChunkedCommand c.currentCmd :=
          congrArg isChunkedCommand hcmd
        exact absurd (hplain.symm.trans (hkind.trans hsuited)) (by decide)
      · exact ⟨_, hlog ▸ hsame.trans hafter, hchunks.symm⟩
  | nextNone hstate hnone =>
      rw [hstate] at hsuited
      refine uploading_enter_sending rfl huploading.whole (fun _ => hnone) fun _ => ?_
      obtain ⟨upload, hunderway, hleft, -⟩ :=
        huploading.left (hbusy _ hstate (by decide)) hsuited
      exact ⟨upload, hunderway, hleft⟩

theorem Uploading.step (huploading : Uploading c) (horderly : Orderly c) {input : Input}
    (hcomplete : Complete c input) : Uploading (c.step input) := by
  rcases horderly.step_cases input with ⟨event, rest, rfl, hposted, hturn⟩ | hbetween
  · exact huploading.turn horderly hposted hcomplete hturn
  · exact huploading.between hbetween

theorem uploading_init (evp : Evp) (epochSeconds : UInt32) : Uploading (init evp epochSeconds) := by
  have hempty : Uploading { ({ evp := evp, epochSeconds := epochSeconds, now := 0 } : Client) with
      commandQueue := [⟨.login1, .null⟩] } :=
    ⟨trivial, fun _ => rfl, fun hbusy => absurd rfl hbusy, fun _ _ => rfl⟩
  exact hempty.between (between_checkCommandQueue _)

/-- In the runs in which only the last chunk is answered with the end of the upload, every file
that is reported as uploaded has been sent whole, and no chunk is sent with another file. -/
theorem uploadSound_of_complete (evp : Evp) (epochSeconds : UInt32) (inputs : List Input)
    (hcomplete : Meets step Complete (init evp epochSeconds) inputs) :
    UploadSound (run step (init evp epochSeconds) inputs) := by
  have hstep : ∀ (c : Client) (input : Input), Orderly c ∧ Uploading c → Complete c input →
      Orderly (c.step input) ∧ Uploading (c.step input) := by
    rintro c input ⟨horderly, huploading⟩ hcomplete
    exact ⟨horderly.step hcomplete.1, huploading.step horderly hcomplete⟩
  exact (run_invariant hstep ⟨orderly_init evp epochSeconds, uploading_init evp epochSeconds⟩
    hcomplete).2.whole

/-- The write of the first command fails; a file is taken up and its first chunk written. -/
def uploadSent : List Input :=
  runs 1 ++ .writeDone false :: runs 3 ++ .send (.uploadCfgFile [1, 2, 3, 4, 5, 6, 7]) :: runs 2 ++
    .writeDone true :: runs 2

/-- A chunk is answered with a version, and the next one is due. -/
def chunkAnswered (version : UInt8) : List Input :=
  .readDone (packetOf true 0x32 [0x00, 0x00, version]).serialize :: runs 3

/-- The last chunk is written after the silence of the line. -/
def lastChunkSent : List Input :=
  .elapse 200 :: .expire .serialWriteDelay :: runs 1 ++ .writeDone true :: runs 2

attribute [local irreducible] step

theorem uploadSound_file :
    ((run step (init plainEvp 0)
        (uploadSent ++ chunkAnswered 0 ++ lastChunkSent ++ chunkAnswered 1)).log.drop 1).head? =
          some (.upload .cdfileUploaded) ∧
      UploadSound (run step (init plainEvp 0)
        (uploadSent ++ chunkAnswered 0 ++ lastChunkSent ++ chunkAnswered 1)) :=
  ⟨by decide +kernel, uploadSound_of_complete plainEvp 0 _ (by decide +kernel)⟩

/-- The first chunk is answered with a version: the file is reported as uploaded without its final
chunk, and this goes out with the next file. -/
theorem not_uploadSound :
    ¬ UploadSound (run step (init plainEvp 0) (uploadSent ++ chunkAnswered 1)) ∧
    ((run step (init plainEvp 0) (uploadSent ++ chunkAnswered 1 ++
      .send (.uploadBlFile [1, 2, 3, 4, 5, 6, 7]) :: runs 3)).log.take 2).map
        (fun outcome => match outcome with
          | .prepared command _ | .dequeued command => some command.cmd
          | _ => none) = [some .uploadCfgFile, some .uploadBlFile] := by
  refine ⟨fun hsound => ?_, by decide +kernel⟩
  have hlog : (run step (init plainEvp 0) (uploadSent ++ chunkAnswered 1)).log =
      .event .uploadCfgFile .sCFGUploadSuccess (some ⟨[0x00, 0x00, 0x01], 2⟩) ::
        .upload .cdfileUploaded ::
          (run step (init plainEvp 0) (uploadSent ++ chunkAnswered 1)).log.drop 2 := by
    decide +kernel
  have hleft : (underway ((run step (init plainEvp 0)
      (uploadSent ++ chunkAnswered 1)).log.drop 2)).map (fun upload => upload.left.length) =
        some 1 := by
    decide +kernel
  rw [UploadSound, hlog] at hsound
  obtain ⟨⟨⟨found, hunderway, hnone⟩, -⟩, -⟩ := hsound
  rw [hunderway, Option.map_some, hnone] at hleft
  exact absurd hleft (by decide)

end Client

end LinuxPBS.Lcsc

import LinuxPBS.Lcsc.UploadEnds

/-!
# What the upload workflow waits for

The workflow knows the file it uploads by `uploadLcscFileName_` only, and an event does not say
which file it is about.  That goes well as long as there is one thing to wait for at a time, a
job, a handler or the upload itself (`Token`): what is waited for follows from the state and from
how far the file has come (`Place`), and nothing else is in the queues (`Holds`).
-/

namespace LinuxPBS.Lcsc

/-- How far the workflow is with a file, or with the acknowledgement. -/
inductive Progress
  | resting
  | uploading (path : List Char)
  | ended (path : List Char)
  | cleaning (path : List Char)
  | removed (path : List Char)
  | generating
  deriving DecidableEq, Repr

/-- A file is started when nothing else is under way, its upload ends once, and then the file
itself is removed once; a cleanup ends for the file that has been removed. -/
def FileOutcome.moves : FileOutcome → Progress → Option Progress
  | .started path, .resting => some (.uploading path)
  | .failed _ _, now => some now
  | .ended _, .uploading path => some (.ended path)
  | .cleanup path, .ended file => if path = file then some (.cleaning file) else none
  | .removed path, .cleaning file => if path = file then some (.removed file) else none
  | .cleaned, .removed _ => some .resting
  | .generating, .resting => some .generating
  | .generated, .generating => some .resting
  | _, _ => none

/-- What the log tells of the workflow; `none` if something has happened out of turn. -/
def progress : List FileOutcome → Option Progress
  | [] => some .resting
  | outcome :: older => (progress older).bind outcome.moves

/-- The event that ends an upload. -/
def UploadLcscFilesEvent.ends : UploadLcscFilesEvent → Option UploadEvent
  | .cdfileUploaded => some .cdfileUploaded
  | .cdfileUploadFailed => some .cdfileUploadFailed
  | _ => none

/-- The event that ends a cleanup. -/
def UploadLcscFilesEvent.endsCleanup : UploadLcscFilesEvent → Bool
  | .cdfileCleanupCompleted | .cdfileCleanupFailed => true
  | _ => false

/-- The handlers that bring a file, or the search for one, a step further. -/
def FilesHandler.advances : FilesHandler → Bool
  | .event .cdfilesDownloaded | .event .noCdfilesDownloaded | .event (.cdfilesUploading _)
  | .event .getLcscDeviceStatus | .event .cdfileUploaded | .event .cdfileUploadFailed
  | .event .cdfileCleanupCompleted | .event .cdfileCleanupFailed | .scanned _ | .failed _ => true
  | _ => false

/-- The events that begin the search. -/
def FilesHandler.begins : FilesHandler → Bool
  | .event .allowDownload | .event .continueUpload => true
  | _ => false

/-- What the client raises is a matter of a file only if it ends an upload. -/
def UploadLcscFilesEvent.IsTold (event : UploadLcscFilesEvent) : Prop :=
  (FilesHandler.event event).advances = event.ends.isSome ∧
    (FilesHandler.event event).begins = false

/-- The jobs that bring a file, or the search for one, a step further. -/
def FileJob.advances : FileJob → Bool
  | .finalizeCdAckFiles => false
  | _ => true

/-- What the workflow waits for. -/
inductive Token
  | nothing
  | handler (handler : FilesHandler)
  | job (job : FileJob)
  /-- the client has been asked for the upload, and it has not ended -/
  | upload
  deriving DecidableEq, Repr

def Token.handlers : Token → List FilesHandler
  | .handler awaited => [awaited]
  | _ => []

def Token.jobs : Token → List FileJob
  | .job awaited => [awaited]
  | _ => []

def Token.uploads : Token → ℕ
  | .upload => 1
  | _ => 0

/-- What is waited for in a state, with the file that is named and the progress so far. -/
inductive Place : UploadLcscFilesState → List Char → Token → Progress → Prop
  | idle (name : List Char) : Place .idle name .nothing .resting
  | downloading (name : List Char) : Place .downloadCdfiles name (.job .downloadCdFiles) .resting
  | downloaded (name : List Char) {event : UploadLcscFilesEvent}
      (hevent : event = .cdfilesDownloaded ∨ event = .noCdfilesDownloaded) :
      Place .downloadCdfiles name (.handler (.event event)) .resting
  | scanning (name : List Char) : Place .uploadCdfiles name (.job .scanDownloadedCdFiles) .resting
  | scanned (name path : List Char) :
      Place .uploadCdfiles name (.handler (.scanned path)) .resting
  | selected {path : List Char} (hpath : path ≠ []) :
      Place .uploadCdfiles path (.handler (.event (.cdfilesUploading path))) .resting
  | finished (name : List Char) :
      Place .uploadCdfiles name (.handler (.event .getLcscDeviceStatus)) .resting
  | preparing {path : List Char} (hpath : path ≠ []) :
      Place .uploadCdfiles path (.job (.uploadCdFile path)) (.uploading path)
  | unsent {path : List Char} (hpath : path ≠ []) (cmd : Cmd) :
      Place .uploadCdfiles path (.handler (.failed cmd)) (.uploading path)
  | uploading {path : List Char} (hpath : path ≠ []) :
      Place .uploadCdfiles path .upload (.uploading path)
  | ended {path : List Char} (hpath : path ≠ []) {event : UploadLcscFilesEvent}
      (hevent : event.ends ≠ none) :
      Place .uploadCdfiles path (.handler (.event event)) (.ended path)
  | cleaning (path : List Char) :
      Place .uploadCdfiles path (.job (.cleanupCdFile path)) (.cleaning path)
  | removed (path : List Char) {event : UploadLcscFilesEvent}
      (hevent : event.endsCleanup = true) :
      Place .uploadCdfiles path (.handler (.event event)) (.removed path)
  | generating (name : List Char) : Place .generateCdackfiles name .nothing .generating
  | moving (name : List Char) : Place .moveCdackfiles name .nothing .generating

theorem Place.of_idle {state : UploadLcscFilesState} {name : List Char} {token : Token}
    {now : Progress} (hplace : Place state name token now) (hstate : state = .idle) :
    token = .nothing ∧ now = .resting := by
  cases hplace with
  | idle => exact ⟨rfl, rfl⟩
  | _ => exact absurd hstate (by decide)

/-- The end of the upload that is waited for. -/
theorem Place.of_upload {state : UploadLcscFilesState} {name : List Char} {now : Progress}
    (hplace : Place state name .upload now) {event : UploadLcscFilesEvent}
    (hevent : event.ends ≠ none) :
    now = .uploading name ∧ Place state name (.handler (.event event)) (.ended name) := by
  cases hplace with
  | uploading hpath => exact ⟨rfl, .ended hpath hevent⟩

namespace Workflow

/-- Nothing else is waited for. -/
structure Holds (w : Workflow) (token : Token) : Prop where
  handlers : w.posted.filter FilesHandler.advances = token.handlers
  jobs : w.filePool.filter FileJob.advances = token.jobs
  uploads : w.client.uploadsRequested = token.uploads

/-- Everything has happened in turn, and what comes next is waited for once. -/
def OneCleanup (w : Workflow) : Prop :=
  ∃ now token, progress w.log = some now ∧
    Place w.currentUploadLcscFilesState w.uploadLcscFileName token now ∧ Holds w token

/-- No time-out is run for an upload that has been told to have ended, and no frame is left behind
a command that has failed. -/
def Timely (w : Workflow) : FilesInput → Prop
  | .client input => w.client.Timely input.val
  | _ => True

instance (w : Workflow) : (input : FilesInput) → Decidable (Timely w input)
  | .client input => inferInstanceAs (Decidable (w.client.Timely input.val))
  | .run => inferInstanceAs (Decidable True)
  | .work _ _ => inferInstanceAs (Decidable True)
  | .uploadLcscCdFiles => inferInstanceAs (Decidable True)
  | .clock _ _ => inferInstanceAs (Decidable True)

/-! ## The token -/

/-- The first handler is taken from the queue. -/
def taken (w : Workflow) (rest : List FilesHandler) : Workflow := { w with posted := rest }

variable {w w' : Workflow} {token : Token} {handler : FilesHandler} {job : FileJob}
  {rest : List FilesHandler} {now : Progress}

/-- A handler is taken that is no matter of a file. -/
theorem Holds.pass (hholds : Holds w token) (hposted : w.posted = handler :: rest)
    (hother : handler.advances = false) : Holds (w.taken rest) token := by
  refine ⟨?_, hholds.jobs, hholds.uploads⟩
  rw [← hholds.handlers, hposted, List.filter_cons_of_neg (by rw [hother]; decide)]
  rfl

/-- The handler that is taken is what has been waited for. -/
theorem Holds.take (hholds : Holds w token) (hposted : w.posted = handler :: rest)
    (hadvances : handler.advances = true) :
    token = .handler handler ∧ Holds (w.taken rest) .nothing := by
  have hhandlers := hholds.handlers
  rw [hposted, List.filter_cons_of_pos hadvances] at hhandlers
  cases token with
  | handler other =>
      obtain ⟨rfl, hrest⟩ := List.cons.inj hhandlers
      exact ⟨rfl, hrest, hholds.jobs, hholds.uploads⟩
  | nothing | job other | upload => exact absurd hhandlers (List.cons_ne_nil _ _)

theorem filter_eraseIdx {α : Type*} (wanted : α → Bool) {items : List α} {index : ℕ} {item : α}
    (hitem : items[index]? = some item) :
    ∃ before after, items.filter wanted = before ++ [item].filter wanted ++ after ∧
      (items.eraseIdx index).filter wanted = before ++ after := by
  obtain ⟨hindex, rfl⟩ := List.getElem?_eq_some_iff.mp hitem
  refine ⟨(items.take index).filter wanted, (items.drop (index + 1)).filter wanted, ?_, ?_⟩
  · rw [← List.filter_append, ← List.filter_append, List.append_assoc, List.singleton_append,
      List.getElem_cons_drop, List.take_append_drop]
  · rw [List.eraseIdx_eq_take_drop_succ, List.filter_append]

/-- A job ends that is no matter of a file. -/
theorem Holds.passJob (hholds : Holds w token) {index : ℕ}
    (hjob : w.filePool[index]? = some job) (hother : job.advances = false) :
    Holds { w with filePool := w.filePool.eraseIdx index } token := by
  obtain ⟨before, after, hall, hleft⟩ := filter_eraseIdx FileJob.advances hjob
  refine ⟨hholds.handlers, ?_, hholds.uploads⟩
  rw [List.filter_cons_of_neg (by rw [hother]; decide), List.filter_nil, List.append_nil] at hall
  exact hleft.trans (hall.symm.trans hholds.jobs)

/-- The job that ends is what has been waited for. -/
theorem Holds.takeJob (hholds : Holds w token) {index : ℕ}
    (hjob : w.filePool[index]? = some job) (hadvances : job.advances = true) :
    token = .job job ∧ Holds { w with filePool := w.filePool.eraseIdx index } .nothing := by
  obtain ⟨before, after, hall, hleft⟩ := filter_eraseIdx FileJob.advances hjob
  rw [List.filter_cons_of_pos hadvances, List.filter_nil, hholds.jobs] at hall
  cases token with
  | job other =>
      have hone : before = [] ∧ after = [] ∧ other = job := by
        cases before with
        | nil => simp_all [Token.jobs]
        | cons first before => simp [Token.jobs] at hall
      obtain ⟨rfl, rfl, rfl⟩ := hone
      exact ⟨rfl, hholds.handlers, hleft.trans (List.append_nil _), hholds.uploads⟩
  | nothing | handler other | upload =>
      exact absurd hall.symm (by simp [Token.jobs])

/-- A handler is posted that is no matter of a file. -/
theorem Holds.other (hholds : Holds w token) (hother : handler.advances = false) :
    Holds (w.post handler) token := by
  refine ⟨?_, hholds.jobs, hholds.uploads⟩
  simp [post, hother, hholds.handlers]

/-- A handler is posted, and waited for. -/
theorem Holds.post (hholds : Holds w .nothing) (hadvances : handler.advances = true) :
    Holds (w.post handler) (.handler handler) := by
  refine ⟨?_, hholds.jobs, hholds.uploads⟩
  simp [Workflow.post, hadvances, hholds.handlers, Token.handlers]

/-- A job is started, and waited for. -/
theorem Holds.startJob (hholds : Holds w .nothing) (hadvances : job.advances = true) :
    Holds (w.startJob job) (.job job) := by
  refine ⟨hholds.handlers, ?_, hholds.uploads⟩
  simp [Workflow.startJob, hadvances, hholds.jobs, Token.jobs]

/-- A job is started that is no matter of a file. -/
theorem Holds.otherJob (hholds : Holds w token) (hother : job.advances = false) :
    Holds (w.startJob job) token := by
  refine ⟨hholds.handlers, ?_, hholds.uploads⟩
  simp [Workflow.startJob, hother, hholds.jobs]

/-- What is waited for does not depend on the rest of the workflow. -/
theorem Holds.of_same (hholds : Holds w token) (hposted : w'.posted = w.posted)
    (hpool : w'.filePool = w.filePool)
    (huploads : w'.client.uploadsRequested = w.client.uploadsRequested) : Holds w' token :=
  ⟨by rw [hposted, hholds.handlers], by rw [hpool, hholds.jobs], by rw [huploads, hholds.uploads]⟩

/-! ## The queue of the workflow -/

/-- No search is begun behind a handler that is a matter of a file, and none is to begin once the
files are there. -/
structure Tidy (state : UploadLcscFilesState) (posted : List FilesHandler) : Prop where
  order : posted.Pairwise fun first second => first.advances = true → second.begins = false
  begun : state ≠ .idle → state ≠ .downloadCdfiles → ∀ handler ∈ posted, handler.begins = false

theorem tidy_of_none {state : UploadLcscFilesState} {posted : List FilesHandler}
    (hnone : ∀ handler ∈ posted, handler.begins = false) : Tidy state posted :=
  ⟨List.pairwise_iff_forall_sublist.mpr fun hsub _ =>
    hnone _ (hsub.subset (List.mem_cons_of_mem _ List.mem_cons_self)), fun _ _ => hnone⟩

variable {state : UploadLcscFilesState} {posted : List FilesHandler}

theorem Tidy.tail (htidy : Tidy state (handler :: posted)) : Tidy state posted :=
  ⟨htidy.order.of_cons, fun hidle hdownload other hmem =>
    htidy.begun hidle hdownload other (List.mem_cons_of_mem _ hmem)⟩

/-- No search is begun behind what is taken. -/
theorem Tidy.behind (htidy : Tidy state (handler :: posted)) (hadvances : handler.advances = true) :
    ∀ other ∈ posted, other.begins = false :=
  fun _ hmem => List.rel_of_pairwise_cons htidy.order hmem hadvances

theorem Tidy.append (htidy : Tidy state posted) {newer : List FilesHandler}
    (hnone : ∀ handler ∈ newer, handler.begins = false) : Tidy state (posted ++ newer) := by
  constructor
  · refine List.pairwise_append.mpr ⟨htidy.order, ?_, fun _ _ other hmem _ => hnone other hmem⟩
    have hnewer : Tidy state newer := tidy_of_none hnone
    exact hnewer.order
  · intro hidle hdownload other hmem
    rcases List.mem_append.mp hmem with hold | hnew
    · exact htidy.begun hidle hdownload other hold
    · exact hnone other hnew

/-- A search is begun when there is none. -/
theorem Tidy.begin (htidy : Tidy .idle posted) (hnone : posted.filter FilesHandler.advances = []) :
    Tidy .idle (posted ++ [handler]) := by
  refine ⟨List.pairwise_append.mpr ⟨htidy.order, List.pairwise_singleton _ _, ?_⟩,
    fun hidle => absurd rfl hidle⟩
  intro other hmem _ _ hadvances
  exact absurd hadvances (List.filter_eq_nil_iff.mp hnone other hmem)

end Workflow

end LinuxPBS.Lcsc

import LinuxPBS.Lcsc.Queue

/-!
# The stages of a frame that is sent to the card reader

A frame waits for the silence of the line, then it is the buffer of an `async_write`, then
the completion handler of that is queued, then the verdict of `writeEnd` on it.  A `Stage`
describes one of these together with the queued handlers that belong to it, `Resting` what
is there between two frames.  The write timer may run out at any time; its expiry is queued
somewhere among the others (`Timed`).

The lemmas follow a frame from stage to stage.  There is none for a write timer that runs out
while the frame waits for the silence of the line: the frame would stay in `writeQueue_`.
-/

namespace LinuxPBS.Lcsc

/-! ## Stages of a frame -/

/-- The handlers that have to do with a write. -/
def isWrite (handler : Handler) : Bool := handler.kind = .write

/-- The queued handlers that have to do with a write. -/
def writeHandlers (posted : List Handler) : List Handler := posted.filter isWrite

/-- What a write works on. -/
structure Transmission where
  writeQueue : List TxFrame
  writeInProgress : Bool
  writeTimedOut : Bool
  writing : List TxFrame
  /-- the timers of the gap and of the write are armed -/
  delayed : Bool
  timed : Bool
  queued : List Handler

/-- The write timer is armed, or its expiry is queued with the other handlers. -/
def Transmission.Timed (tx : Transmission) (handlers : List Handler) : Prop :=
  tx.timed = true ∧ tx.queued = handlers ∨
    tx.timed = false ∧ (tx.queued = handlers ++ [.expired .serialWrite] ∨
      tx.queued = .expired .serialWrite :: handlers)

/-- The frame prepared last, with what it has been prepared from, unless its write has failed. -/
def lastPrepared : List Outcome → Option (CommandWithData × TxFrame)
  | [] => none
  | .prepared command frame :: _ => some (command, frame)
  | .failed _ .sSendcmdfail :: _ => none
  | _ :: older => lastPrepared older

/-- The frame prepared last has been completely written since. -/
def LastWritten : List Outcome → Prop
  | [] => False
  | .written frame :: older =>
      (lastPrepared older).map Prod.snd = some frame ∨ LastWritten older
  | .prepared _ _ :: _ => False
  | .failed _ .sSendcmdfail :: _ => False
  | _ :: older => LastWritten older

/-- Every frame handed to the port or written by it is the one prepared last, and has not
failed before. -/
def SentLast : List Outcome → Prop
  | [] => True
  | .handed frame :: older | .written frame :: older =>
      (lastPrepared older).map Prod.snd = some frame ∧ SentLast older
  | _ :: older => SentLast older

/-- The entries that have nothing to do with a frame that is being sent. -/
def Outcome.isReport : Outcome → Bool
  | .prepared _ _ | .handed _ | .written _ | .failed _ .sSendcmdfail => false
  | _ => true

theorem lastPrepared_cons {outcome : Outcome} (hreport : outcome.isReport = true)
    (log : List Outcome) : lastPrepared (outcome :: log) = lastPrepared log := by
  unfold Outcome.isReport at hreport
  split at hreport <;> simp_all [lastPrepared]

theorem LastWritten.cons {log : List Outcome} (hwritten : LastWritten log) {outcome : Outcome}
    (hreport : outcome.isReport = true) : LastWritten (outcome :: log) := by
  unfold Outcome.isReport at hreport
  split at hreport <;> simp_all [LastWritten]

theorem SentLast.cons {log : List Outcome} (hsent : SentLast log) {outcome : Outcome}
    (hhanded : ∀ frame, outcome ≠ .handed frame) (hwritten : ∀ frame, outcome ≠ .written frame) :
    SentLast (outcome :: log) := by
  cases outcome with
  | handed frame => exact absurd rfl (hhanded frame)
  | written frame => exact absurd rfl (hwritten frame)
  | _ => exact hsent

/-- Nothing is being written; at most a late time-out is still queued. -/
structure Resting (tx : Transmission) : Prop where
  queue : tx.writeQueue = []
  progress : tx.writeInProgress = false
  writing : tx.writing = []
  delayed : tx.delayed = false
  timed : tx.timed = false
  queued : tx.queued = [] ∨ tx.queued = [.event .writeTimeout]

/-- What the verdict on a write can be. -/
def Event.isVerdict : Event → Bool
  | .writeCompleted | .writeFailed | .writeTimeout => true
  | _ => false

/-- The stages of a frame that is being sent. -/
inductive Stage (tx : Transmission) (log : List Outcome) : Prop
  /-- it waits for the silence of the line -/
  | delayed (frame : TxFrame) (hqueue : tx.writeQueue = [frame])
      (hlast : (lastPrepared log).map Prod.snd = some frame) (hprogress : tx.writeInProgress = false)
      (hwriting : tx.writing = [])
      (htimer : tx.delayed = true ∧ tx.Timed [] ∨
        tx.delayed = false ∧ tx.Timed [.expired .serialWriteDelay])
  /-- it is the buffer of an `async_write` -/
  | writing (frame : TxFrame) (hqueue : tx.writeQueue = [frame])
      (hlast : (lastPrepared log).map Prod.snd = some frame) (hprogress : tx.writeInProgress = true)
      (hwriting : tx.writing = [frame]) (hdelayed : tx.delayed = false)
      (htimedOut : tx.writeTimedOut = false) (htimer : tx.Timed [])
  /-- the completion handler of that is queued -/
  | ended (frame : TxFrame) (error : WriteError) (hqueue : tx.writeQueue = [frame])
      (hlast : (lastPrepared log).map Prod.snd = some frame) (hprogress : tx.writeInProgress = true)
      (hwriting : tx.writing = []) (hdelayed : tx.delayed = false)
      (hwritten : error = .none → LastWritten log)
      (htimer : tx.writeTimedOut = true ∧ tx.timed = false ∧ tx.queued = [.writeEnd error] ∨
        tx.writeTimedOut = false ∧ error ≠ .operationAborted ∧ tx.Timed [.writeEnd error])
  /-- the verdict on it is queued -/
  | judged (event : Event) (hqueue : tx.writeQueue = []) (hprogress : tx.writeInProgress = false)
      (hwriting : tx.writing = []) (hdelayed : tx.delayed = false) (htimed : tx.timed = false)
      (hverdict : event.isVerdict = true) (hwritten : event = .writeCompleted → LastWritten log)
      (hqueued : tx.queued = [.event event] ∨
        tx.queued = [.expired .serialWrite, .event event] ∨
        tx.queued = [.event event, .event .writeTimeout])
  /-- there was none to send -/
  | unsent (hqueue : tx.writeQueue = []) (hprogress : tx.writeInProgress = false)
      (hwriting : tx.writing = []) (hdelayed : tx.delayed = false)
      (htimer : tx.Timed [] ∨ tx.timed = false ∧ tx.queued = [.event .writeTimeout])

/-- What is written in a phase. -/
def Carried (phase : Phase) (tx : Transmission) (log : List Outcome) : Prop :=
  match phase with
  | .idle => Resting tx
  | .sending => Stage tx log
  | .waiting => Resting tx ∧ LastWritten log

/-! ## From stage to stage -/

section Stage

variable {tx : Transmission} {log : List Outcome} {handlers rest : List Handler}
  {handler : Handler}

/-- The write timer expires. -/
theorem Transmission.Timed.expires (htimer : tx.Timed handlers) (htimed : tx.timed = true) :
    { tx with
      timed := false
      queued := tx.queued ++ [Handler.expired .serialWrite] }.Timed handlers := by
  rcases htimer with ⟨-, hqueued⟩ | ⟨huntimed, -⟩
  · exact .inr ⟨rfl, .inl (congrArg (· ++ _) hqueued)⟩
  · exact absurd (huntimed.symm.trans htimed) (by decide)

/-- A handler is posted behind what there is. -/
theorem Transmission.Timed.posted (htimer : tx.Timed []) :
    { tx with queued := tx.queued ++ [handler] }.Timed [handler] := by
  rcases htimer with ⟨htimed, hqueued⟩ | ⟨htimed, hqueued⟩
  · exact .inl ⟨htimed, by simp [hqueued]⟩
  · refine .inr ⟨htimed, .inr ?_⟩
    rcases hqueued with hqueued | hqueued <;> simp [hqueued]

/-- The handler in front that is not that of the write timer is run. -/
theorem Transmission.Timed.taken (htimer : tx.Timed [handler])
    (hqueued : tx.queued = handler :: rest) (hother : handler ≠ .expired .serialWrite) :
    { tx with queued := rest }.Timed [] := by
  rcases htimer with ⟨htimed, hfront⟩ | ⟨htimed, hfront | hfront⟩
  · exact .inl ⟨htimed, by simp_all⟩
  · exact .inr ⟨htimed, .inl (by simp_all)⟩
  · exact absurd (by simp_all) hother

/-- The handler in front is one of those that are there. -/
theorem Transmission.Timed.front (htimer : tx.Timed handlers)
    (hqueued : tx.queued = handler :: rest) :
    handler = .expired .serialWrite ∨ handlers.head? = some handler := by
  rcases htimer with ⟨-, hfront⟩ | ⟨-, hfront | hfront⟩ <;> cases handlers <;> simp_all

/-- The handler of the write timer is run. -/
theorem Transmission.Timed.late (htimer : tx.Timed handlers)
    (hqueued : tx.queued = .expired .serialWrite :: rest)
    (hother : handlers.head? ≠ some (.expired .serialWrite)) :
    tx.timed = false ∧ rest = handlers := by
  rcases htimer with ⟨-, hfront⟩ | ⟨htimed, hfront | hfront⟩ <;> cases handlers <;> simp_all

/-- The delay of a frame expires. -/
theorem Stage.delayExpires (hstage : Stage tx log) (hdelayed : tx.delayed = true) :
    Stage { tx with
      delayed := false
      queued := tx.queued ++ [.expired .serialWriteDelay] } log := by
  cases hstage with
  | delayed frame hqueue hlast hprogress hwriting htimer =>
      rcases htimer with ⟨-, htimer⟩ | ⟨hundelayed, -⟩
      · exact .delayed frame hqueue hlast hprogress hwriting (.inr ⟨rfl, htimer.posted⟩)
      · exact absurd (hundelayed.symm.trans hdelayed) (by decide)
  | writing _ _ _ _ _ hundelayed | ended _ _ _ _ _ _ hundelayed | judged _ _ _ _ hundelayed
  | unsent _ _ _ hundelayed => exact absurd (hundelayed.symm.trans hdelayed) (by decide)

/-- The write timer of a frame expires. -/
theorem Stage.writeExpires (hstage : Stage tx log) (htimed : tx.timed = true) :
    Stage { tx with timed := false, queued := tx.queued ++ [.expired .serialWrite] } log := by
  cases hstage with
  | delayed frame hqueue hlast hprogress hwriting htimer =>
      refine .delayed frame hqueue hlast hprogress hwriting ?_
      rcases htimer with ⟨hdelayed, htimer⟩ | ⟨hdelayed, htimer⟩
      · exact .inl ⟨hdelayed, htimer.expires htimed⟩
      · exact .inr ⟨hdelayed, htimer.expires htimed⟩
  | writing frame hqueue hlast hprogress hwriting hdelayed htimedOut htimer =>
      exact .writing frame hqueue hlast hprogress hwriting hdelayed htimedOut
        (htimer.expires htimed)
  | ended frame error hqueue hlast hprogress hwriting hdelayed hwritten htimer =>
      refine .ended frame error hqueue hlast hprogress hwriting hdelayed hwritten ?_
      rcases htimer with ⟨-, huntimed, -⟩ | ⟨htimedOut, herror, htimer⟩
      · exact absurd (huntimed.symm.trans htimed) (by decide)
      · exact .inr ⟨htimedOut, herror, htimer.expires htimed⟩
  | judged event hqueue hprogress hwriting hdelayed huntimed =>
      exact absurd (huntimed.symm.trans htimed) (by decide)
  | unsent hqueue hprogress hwriting hdelayed htimer =>
      refine .unsent hqueue hprogress hwriting hdelayed ?_
      rcases htimer with htimer | ⟨huntimed, -⟩
      · exact .inl (htimer.expires htimed)
      · exact absurd (huntimed.symm.trans htimed) (by decide)

/-- What is the buffer of an `async_write` is the frame prepared last. -/
theorem Stage.writing_eq (hstage : Stage tx log) {frame : TxFrame} {others : List TxFrame}
    (hwriting : tx.writing = frame :: others) :
    others = [] ∧ (lastPrepared log).map Prod.snd = some frame := by
  cases hstage with
  | writing front hqueue hlast hprogress hfront =>
      rw [hwriting] at hfront
      obtain ⟨rfl, rfl⟩ := List.cons.inj hfront
      exact ⟨rfl, hlast⟩
  | delayed _ _ _ _ hnone | ended _ _ _ _ _ hnone | judged _ _ _ hnone | unsent _ _ hnone =>
      exact absurd (hwriting.symm.trans hnone) (List.cons_ne_nil _ _)

/-- An `async_write` ends. -/
theorem Stage.writeDone (hstage : Stage tx log) (hwriting : tx.writing ≠ [])
    {error : WriteError} (herror : error ≠ .operationAborted) {newLog : List Outcome}
    (hlast : lastPrepared newLog = lastPrepared log) (hwritten : error = .none → LastWritten newLog) :
    Stage { tx with writing := [], queued := tx.queued ++ [.writeEnd error] } newLog := by
  cases hstage with
  | writing frame hqueue hlastOld hprogress _ hdelayed htimedOut htimer =>
      exact .ended frame error hqueue (hlast ▸ hlastOld) hprogress rfl hdelayed hwritten
        (.inr ⟨htimedOut, herror, htimer.posted⟩)
  | delayed _ _ _ _ hnone | ended _ _ _ _ _ hnone | judged _ _ _ hnone | unsent _ _ hnone =>
      exact absurd hnone hwriting

/-- The delay of a frame is over: nothing is being written, and the write timer runs. -/
theorem Stage.delayEnds (hstage : Stage tx log)
    (hqueued : tx.queued = .expired .serialWriteDelay :: rest) :
    ∃ frame, tx.writeQueue = [frame] ∧ (lastPrepared log).map Prod.snd = some frame ∧
      tx.writeInProgress = false ∧ tx.writing = [] ∧ tx.delayed = false ∧
      { tx with queued := rest }.Timed [] := by
  cases hstage with
  | delayed frame hqueue hlast hprogress hwriting htimer =>
      rcases htimer with ⟨-, htimer⟩ | ⟨hdelayed, htimer⟩
      · exact absurd (htimer.front hqueued) (by simp)
      · exact ⟨frame, hqueue, hlast, hprogress, hwriting, hdelayed,
          htimer.taken hqueued (by simp)⟩
  | writing _ _ _ _ _ _ _ htimer => exact absurd (htimer.front hqueued) (by simp)
  | ended _ _ _ _ _ _ _ _ htimer =>
      rcases htimer with ⟨-, -, hfront⟩ | ⟨-, -, htimer⟩
      · exact absurd (hqueued.symm.trans hfront) (by simp)
      · exact absurd (htimer.front hqueued) (by simp)
  | judged _ _ _ _ _ _ _ _ hfront =>
      rw [hqueued] at hfront
      simp at hfront
  | unsent _ _ _ _ htimer =>
      rcases htimer with htimer | ⟨-, hfront⟩
      · exact absurd (htimer.front hqueued) (by simp)
      · exact absurd (hqueued.symm.trans hfront) (by simp)

/-- The write timer has run out during a write, which is cancelled. -/
theorem Stage.cancelled (hstage : Stage tx log) (hprogress : tx.writeInProgress = true)
    (hqueued : tx.queued = .expired .serialWrite :: rest) :
    Stage { tx with
      writeTimedOut := true
      writing := []
      queued := rest ++ tx.writing.map fun _ => .writeEnd .operationAborted } log := by
  cases hstage with
  | writing frame hqueue hlast _ hwriting hdelayed _ htimer =>
      obtain ⟨htimed, rfl⟩ := htimer.late hqueued (by simp)
      exact .ended frame .operationAborted hqueue hlast hprogress rfl hdelayed (by simp)
        (.inl ⟨rfl, htimed, by simp [hwriting]⟩)
  | ended frame error hqueue hlast _ hwriting hdelayed hwritten htimer =>
      rcases htimer with ⟨-, -, hfront⟩ | ⟨-, -, htimer⟩
      · exact absurd (hqueued.symm.trans hfront) (by simp)
      · obtain ⟨htimed, rfl⟩ := htimer.late hqueued (by simp)
        exact .ended frame error hqueue hlast hprogress rfl hdelayed hwritten
          (.inl ⟨rfl, htimed, by simp [hwriting]⟩)
  | delayed _ _ _ hnone | judged _ _ hnone | unsent _ hnone =>
      exact absurd (hnone.symm.trans hprogress) (by decide)

/-- The write timer has run out too late, or without a frame to send. -/
theorem Stage.timedOut (hstage : Stage tx log) (hprogress : tx.writeInProgress = false)
    (hqueue : tx.writeQueue = []) (hqueued : tx.queued = .expired .serialWrite :: rest) :
    Stage { tx with queued := rest ++ [.event .writeTimeout] } log := by
  cases hstage with
  | judged event _ _ hwriting hdelayed htimed hverdict hwritten hfront =>
      refine .judged event hqueue hprogress hwriting hdelayed htimed hverdict hwritten
        (.inr (.inr ?_))
      rw [hqueued] at hfront
      simp_all
  | unsent _ _ hwriting hdelayed htimer =>
      rcases htimer with htimer | ⟨-, hfront⟩
      · obtain ⟨htimed, rfl⟩ := htimer.late hqueued (by simp)
        exact .unsent hqueue hprogress hwriting hdelayed (.inr ⟨htimed, rfl⟩)
      · exact absurd (hqueued.symm.trans hfront) (by simp)
  | delayed _ hsome | writing _ hsome | ended _ _ hsome =>
      exact absurd (hqueue.symm.trans hsome) (by simp)

/-- The verdict that `writeEnd` gives. -/
def verdict (timedOut : Bool) : WriteError → Option Event
  | .none => some (if timedOut then .writeTimeout else .writeCompleted)
  | .operationAborted => if timedOut then some .writeTimeout else none
  | .other => some (if timedOut then .writeTimeout else .writeFailed)

/-- The completion handler of a write gives a verdict. -/
theorem Stage.writeEnd (hstage : Stage tx log) {error : WriteError}
    (hqueued : tx.queued = .writeEnd error :: rest) :
    ∃ event, verdict tx.writeTimedOut error = some event ∧
      Stage { tx with
        writeQueue := tx.writeQueue.tail
        writeInProgress := false
        writeTimedOut := false
        timed := false
        queued := rest ++ [.event event] } log := by
  cases hstage with
  | ended frame found hqueue hlast hprogress hwriting hdelayed hwritten htimer =>
      rcases htimer with ⟨htimedOut, htimed, hfront⟩ | ⟨htimedOut, herror, htimer⟩
      · obtain ⟨hfound, rfl⟩ := List.cons.inj (hqueued.symm.trans hfront)
        refine ⟨.writeTimeout, by cases error <;> simp [verdict, htimedOut], ?_⟩
        exact .judged .writeTimeout (by simp [hqueue]) rfl hwriting hdelayed rfl rfl (by simp)
          (.inl rfl)
      · have hfound : found = error := by simpa using htimer.front hqueued
        subst hfound
        have hrest : rest = [] ∨ rest = [.expired .serialWrite] := by
          rcases htimer with ⟨-, hfront⟩ | ⟨-, hfront | hfront⟩ <;> simp_all
        cases found with
        | operationAborted => exact absurd rfl herror
        | none =>
            refine ⟨.writeCompleted, by simp [verdict, htimedOut], ?_⟩
            refine .judged .writeCompleted (by simp [hqueue]) rfl hwriting hdelayed rfl rfl
              (fun _ => hwritten rfl) ?_
            rcases hrest with rfl | rfl <;> simp
        | other =>
            refine ⟨.writeFailed, by simp [verdict, htimedOut], ?_⟩
            refine .judged .writeFailed (by simp [hqueue]) rfl hwriting hdelayed rfl rfl
              (by simp) ?_
            rcases hrest with rfl | rfl <;> simp
  | delayed _ _ _ _ _ htimer =>
      rcases htimer with ⟨-, htimer⟩ | ⟨-, htimer⟩
      · exact absurd (htimer.front hqueued) (by simp)
      · exact absurd (htimer.front hqueued) (by simp)
  | writing _ _ _ _ _ _ _ htimer => exact absurd (htimer.front hqueued) (by simp)
  | judged _ _ _ _ _ _ _ _ hfront =>
      rw [hqueued] at hfront
      simp at hfront
  | unsent _ _ _ _ htimer =>
      rcases htimer with htimer | ⟨-, hfront⟩
      · exact absurd (htimer.front hqueued) (by simp)
      · exact absurd (hqueued.symm.trans hfront) (by simp)

/-- The verdict is run, and nothing is left of the frame. -/
theorem Stage.ends (hstage : Stage tx log) {event : Event}
    (hqueued : tx.queued = .event event :: rest) :
    Resting { tx with queued := rest } ∧ (event = .writeCompleted → LastWritten log) := by
  cases hstage with
  | judged found hqueue hprogress hwriting hdelayed htimed _ hwritten hfront =>
      rw [hqueued] at hfront
      refine ⟨⟨hqueue, hprogress, hwriting, hdelayed, htimed, ?_⟩, ?_⟩
      · rcases hfront with hfront | hfront | hfront <;> simp_all
      · rcases hfront with hfront | hfront | hfront <;> simp_all
  | unsent hqueue hprogress hwriting hdelayed htimer =>
      rcases htimer with htimer | ⟨htimed, hfront⟩
      · exact absurd (htimer.front hqueued) (by simp)
      · obtain ⟨hevent, rfl⟩ := List.cons.inj (hqueued.symm.trans hfront)
        refine ⟨⟨hqueue, hprogress, hwriting, hdelayed, htimed, .inl rfl⟩, fun hcompleted => ?_⟩
        rw [hcompleted] at hevent
        exact absurd hevent (by decide)
  | delayed _ _ _ _ _ htimer =>
      rcases htimer with ⟨-, htimer⟩ | ⟨-, htimer⟩
      · exact absurd (htimer.front hqueued) (by simp)
      · exact absurd (htimer.front hqueued) (by simp)
  | writing _ _ _ _ _ _ _ htimer => exact absurd (htimer.front hqueued) (by simp)
  | ended _ _ _ _ _ _ _ _ htimer =>
      rcases htimer with ⟨-, -, hfront⟩ | ⟨-, -, htimer⟩
      · exact absurd (hqueued.symm.trans hfront) (by simp)
      · exact absurd (htimer.front hqueued) (by simp)

/-- Between two frames only a late time-out is run. -/
theorem Resting.late (hresting : Resting tx) (hqueued : tx.queued = handler :: rest) :
    handler = .event .writeTimeout ∧ Resting { tx with queued := rest } := by
  obtain ⟨hqueue, hprogress, hwriting, hdelayed, htimed, hfront⟩ := hresting
  rcases hfront with hfront | hfront
  · exact absurd (hqueued.symm.trans hfront) (List.cons_ne_nil _ _)
  · obtain ⟨rfl, rfl⟩ := List.cons.inj (hqueued.symm.trans hfront)
    exact ⟨rfl, hqueue, hprogress, hwriting, hdelayed, htimed, .inl rfl⟩

end Stage

end LinuxPBS.Lcsc

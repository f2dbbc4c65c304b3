import LinuxPBS.Lcsc.WireSound

/-!
# When a response has come

A frame that was read before the current command had been written may still be queued when
the client sends that command, as `readEnd` or as `RESPONSE_RECEIVED`.  The completion of the
write is queued behind it, so that it is ignored: while the client waits, whatever is queued
of a read has come since the frame prepared last was written (`Fresh`).
-/

namespace LinuxPBS.Lcsc

open Machine

/-- The number of the frame written last. -/
def lastNumber : List Outcome → ℕ
  | [] => 0
  | .written frame :: _ => frame.number
  | _ :: older => lastNumber older

/-- If the frame prepared last has been written it is the one written last. -/
theorem lastNumber_of_written {log : List Outcome} (hwritten : LastWritten log)
    (hsent : SentLast log) {command : CommandWithData} {frame : TxFrame}
    (hlast : lastPrepared log = some (command, frame)) : lastNumber log = frame.number := by
  induction log with
  | nil => exact hwritten.elim
  | cons outcome older ih =>
      cases outcome with
      | prepared _ _ => exact hwritten.elim
      | written other =>
          have hsame : (lastPrepared older).map Prod.snd = some other := hsent.1
          have hlast : lastPrepared older = some (command, frame) := hlast
          rw [hlast] at hsame
          exact (congrArg TxFrame.number (Option.some.inj hsame)).symm
      | handed other => exact ih hwritten hsent.2 hlast
      | failed cmd msgStatus =>
          cases msgStatus with
          | sSendcmdfail => exact hwritten.elim
          | _ => exact ih hwritten hsent hlast
      | _ => exact ih hwritten hsent hlast

/-- What stands behind the completion of a write has come after it. -/
def Behind (lastWritten receivedAfter : ℕ) : Handler → Handler → Prop
  | .writeEnd .none, .readEnd _ number => number = lastWritten
  | .event .writeCompleted, .event .responseReceived => receivedAfter = lastWritten
  | _, _ => True

/-- What is queued of a read, while the client waits, has come after the frame written last. -/
structure Fresh (phase : Phase) (lastWritten receivedAfter : ℕ) (posted : List Handler) : Prop where
  behind : posted.Pairwise (Behind lastWritten receivedAfter)
  reads : phase = .waiting ∨ .event .writeCompleted ∈ posted →
    ∀ data number, .readEnd data number ∈ posted → number = lastWritten
  received : phase = .waiting → .event .responseReceived ∈ posted → receivedAfter = lastWritten

/-- The handlers that have nothing to do with the order of reads and writes. -/
def Handler.isMute : Handler → Bool
  | .readEnd _ _ | .event .writeCompleted | .event .responseReceived => false
  | _ => true

variable {phase next : Phase} {lastWritten receivedAfter : ℕ}
  {posted rest newer : List Handler} {handler : Handler}

theorem Fresh.tail (hfresh : Fresh phase lastWritten receivedAfter (handler :: rest)) :
    Fresh phase lastWritten receivedAfter rest :=
  ⟨hfresh.behind.of_cons,
    fun hwhen data number hmem => hfresh.reads (hwhen.imp_right (List.mem_cons_of_mem _)) data
      number (List.mem_cons_of_mem _ hmem),
    fun hwaiting hmem => hfresh.received hwaiting (List.mem_cons_of_mem _ hmem)⟩

/-- A command is taken up, goes on or ends. -/
theorem Fresh.leave (hfresh : Fresh phase lastWritten receivedAfter posted)
    (hnext : next ≠ .waiting) : Fresh next lastWritten receivedAfter posted :=
  ⟨hfresh.behind,
    fun hwhen => hfresh.reads (.inr (hwhen.resolve_left hnext)),
    fun hwaiting => absurd hwaiting hnext⟩

theorem behind_mute {first : Handler} (hmute : handler.isMute = true) :
    Behind lastWritten receivedAfter first handler := by
  unfold Handler.isMute at hmute
  split at hmute
  · exact absurd hmute Bool.false_ne_true
  · exact absurd hmute Bool.false_ne_true
  · exact absurd hmute Bool.false_ne_true
  · unfold Behind
    split <;> simp_all

theorem Fresh.post (hfresh : Fresh phase lastWritten receivedAfter posted)
    (hmute : handler.isMute = true) :
    Fresh phase lastWritten receivedAfter (posted ++ [handler]) := by
  have hold : ∀ {other : Handler}, other.isMute = false → other ∈ posted ++ [handler] →
      other ∈ posted := by
    intro other hother hmem
    rcases List.mem_append.mp hmem with hmem | hmem
    · exact hmem
    · obtain rfl := List.mem_singleton.mp hmem
      exact absurd (hmute.symm.trans hother) (by decide)
  refine ⟨?_, fun hwhen data number hmem => ?_, fun hwaiting hmem => ?_⟩
  · refine List.pairwise_append.mpr ⟨hfresh.behind, List.pairwise_singleton _ _, ?_⟩
    intro first hfirst last hlast
    rw [List.mem_singleton.mp hlast]
    exact behind_mute hmute
  · exact hfresh.reads (hwhen.imp_right (hold rfl)) data number (hold rfl hmem)
  · exact hfresh.received hwaiting (hold rfl hmem)

theorem Fresh.posts (hfresh : Fresh phase lastWritten receivedAfter posted)
    (hmute : ∀ handler ∈ newer, handler.isMute = true) :
    Fresh phase lastWritten receivedAfter (posted ++ newer) := by
  induction newer generalizing posted with
  | nil => simpa using hfresh
  | cons handler newer ih =>
      rw [← List.concat_append, List.concat_eq_append]
      exact ih (hfresh.post (hmute handler List.mem_cons_self))
        fun other hmem => hmute other (List.mem_cons_of_mem _ hmem)

/-- A read completes. -/
theorem Fresh.readDone (hfresh : Fresh phase lastWritten receivedAfter posted)
    (data : List UInt8) :
    Fresh phase lastWritten receivedAfter (posted ++ [.readEnd data lastWritten]) := by
  have hold : ∀ {event : Event},
      .event event ∈ posted ++ [.readEnd data lastWritten] → .event event ∈ posted := by
    intro event hmem
    simpa using hmem
  refine ⟨?_, fun hwhen other number hmem => ?_, fun hwaiting hmem => ?_⟩
  · refine List.pairwise_append.mpr ⟨hfresh.behind, List.pairwise_singleton _ _, ?_⟩
    intro first hfirst last hlast
    rw [List.mem_singleton.mp hlast]
    unfold Behind
    split
    · simp_all
    · simp_all
    · trivial
  · rcases List.mem_append.mp hmem with hmem | hmem
    · exact hfresh.reads (hwhen.imp_right hold) other number hmem
    · exact (Handler.readEnd.inj (List.mem_singleton.mp hmem)).2
  · exact hfresh.received hwaiting (hold hmem)

/-- The completion handler of a read has received a frame. -/
theorem Fresh.readEnd {data : List UInt8} {number : ℕ}
    (hfresh : Fresh phase lastWritten receivedAfter (.readEnd data number :: rest))
    (hnone : .event .responseReceived ∉ rest) :
    Fresh phase lastWritten number (rest ++ [.event .responseReceived]) := by
  have hnumber : phase = .waiting ∨ .event .writeCompleted ∈ rest → number = lastWritten :=
    fun hwhen => hfresh.reads (hwhen.imp_right (List.mem_cons_of_mem _)) data number
      List.mem_cons_self
  have hbehind : rest.Pairwise (Behind lastWritten number) := by
    refine hfresh.behind.of_cons.imp_of_mem fun {first second} _ hsecond hbehind => ?_
    unfold Behind at hbehind ⊢
    split
    · simpa using hbehind
    · exact absurd hsecond hnone
    · trivial
  refine ⟨?_, fun hwhen other other' hmem => ?_, fun hwaiting _ => hnumber (.inl hwaiting)⟩
  · refine List.pairwise_append.mpr ⟨hbehind, List.pairwise_singleton _ _, ?_⟩
    intro first hfirst last hlast
    rw [List.mem_singleton.mp hlast]
    unfold Behind
    split
    · simp_all
    · exact hnumber (.inr hfirst)
    · trivial
  · have hmem : .readEnd other other' ∈ rest := by simpa using hmem
    have hwhen : phase = .waiting ∨ .event .writeCompleted ∈ rest := by simpa using hwhen
    exact hfresh.tail.reads hwhen other other' hmem

/-- The completion handler of a write posts that. -/
theorem Fresh.writeEnd (hfresh : Fresh phase lastWritten receivedAfter (.writeEnd .none :: rest))
    (hphase : phase ≠ .waiting) :
    Fresh phase lastWritten receivedAfter (rest ++ [.event .writeCompleted]) := by
  refine ⟨?_, fun _ data number hmem => ?_, fun hwaiting => absurd hwaiting hphase⟩
  · refine List.pairwise_append.mpr ⟨hfresh.behind.of_cons, List.pairwise_singleton _ _, ?_⟩
    intro first hfirst last hlast
    rw [List.mem_singleton.mp hlast]
    unfold Behind
    split <;> simp_all
  · have hmem : .readEnd data number ∈ rest := by simpa using hmem
    exact List.rel_of_pairwise_cons hfresh.behind hmem

/-- From here on the client waits for the response. -/
theorem Fresh.complete
    (hfresh : Fresh phase lastWritten receivedAfter (.event .writeCompleted :: rest)) :
    Fresh .waiting lastWritten receivedAfter rest :=
  ⟨hfresh.behind.of_cons,
    fun _ data number hmem => hfresh.reads (.inr List.mem_cons_self) data number
      (List.mem_cons_of_mem _ hmem),
    fun _ hmem => List.rel_of_pairwise_cons hfresh.behind hmem⟩

/-- While a frame is being written no completion of a write is queued. -/
theorem Fresh.writeDone (hfresh : Fresh phase lastWritten receivedAfter posted)
    (hphase : phase ≠ .waiting) (hnone : .writeEnd .none ∉ posted)
    (hcompleted : .event .writeCompleted ∉ posted) (number : ℕ) :
    Fresh phase number receivedAfter (posted ++ [.writeEnd .none]) := by
  refine ⟨?_, fun hwhen => ?_, fun hwaiting => absurd hwaiting hphase⟩
  · have hbehind : posted.Pairwise (Behind number receivedAfter) := by
      refine hfresh.behind.imp_of_mem fun {first second} hfirst _ _ => ?_
      unfold Behind
      split
      · exact absurd hfirst hnone
      · exact absurd hfirst hcompleted
      · trivial
    refine List.pairwise_append.mpr ⟨hbehind, List.pairwise_singleton _ _, ?_⟩
    intro first _ last hlast
    rw [List.mem_singleton.mp hlast]
    exact behind_mute rfl
  · have hwhen : .event .writeCompleted ∈ posted := by simpa using hwhen.resolve_left hphase
    exact absurd hwhen hcompleted

theorem lastNumber_wires {newer : List Outcome}
    (hnewer : ∀ outcome ∈ newer, ∀ frame, outcome ≠ .written frame) (log : List Outcome) :
    lastNumber (newer ++ log) = lastNumber log := by
  induction newer with
  | nil => rfl
  | cons outcome newer ih =>
      have htail := ih fun other hmem => hnewer other (List.mem_cons_of_mem _ hmem)
      cases outcome with
      | written frame => exact absurd rfl (hnewer _ List.mem_cons_self frame)
      | _ => exact htail

/-- While a frame is being written only the expiry of its timer is queued. -/
theorem Stage.unwritten {tx : Transmission} {log : List Outcome} (hstage : Stage tx log)
    (hwriting : tx.writing ≠ []) : ∀ handler ∈ tx.queued, handler = .expired .serialWrite := by
  cases hstage with
  | writing frame _ _ _ _ _ _ htimer =>
      intro handler hmem
      rcases htimer with ⟨-, hqueued⟩ | ⟨-, hqueued | hqueued⟩ <;> simp_all
  | delayed _ _ _ _ hnone | ended _ _ _ _ _ hnone | judged _ _ _ hnone | unsent _ _ hnone =>
      exact absurd hnone hwriting

namespace Client

/-- What the client has heard of the reader, in a phase. -/
def Heard (c : Client) (phase : Phase) : Prop :=
  Fresh phase c.lastWritten c.receivedAfter c.posted ∧ c.lastWritten = lastNumber c.log

variable {c c' : Client}

theorem Heard.taken (hheard : Heard c phase) (hposted : c.posted = handler :: rest) :
    Heard (c.taken rest) phase :=
  ⟨(hposted ▸ hheard.1).tail, hheard.2⟩

theorem Heard.leave (hheard : Heard c phase) (hnext : next ≠ .waiting) : Heard c next :=
  ⟨hheard.1.leave hnext, hheard.2⟩

theorem Heard.post (hheard : Heard c phase) (hmute : handler.isMute = true) :
    Heard (c.post handler) phase :=
  ⟨hheard.1.post hmute, hheard.2⟩

theorem Heard.aside (hheard : Heard c phase) (haside : c.Aside c') : Heard c' phase := by
  obtain ⟨log, commandQueue, flag, rfl, hreports, -⟩ := haside
  refine ⟨hheard.1, hheard.2.trans (lastNumber_wires ?_ c.log).symm⟩
  rintro outcome hmem frame rfl
  exact absurd (hreports _ hmem) Bool.false_ne_true

theorem Heard.note (hheard : Heard c phase) {outcome : Outcome}
    (hother : ∀ frame, outcome ≠ .written frame) : Heard (c.note outcome) phase := by
  have hnewer : ∀ entry ∈ [outcome], ∀ frame, entry ≠ .written frame := by
    intro entry hmem
    rw [List.mem_singleton.mp hmem]
    exact hother
  exact ⟨hheard.1, hheard.2.trans (lastNumber_wires hnewer c.log).symm⟩

theorem Heard.startWrite (hheard : Heard c phase) : Heard c.startWrite phase := by
  unfold Client.startWrite
  split
  · exact ⟨hheard.1, hheard.2⟩
  · split
    · exact ⟨hheard.1, hheard.2⟩
    · exact Heard.note (c := { c with
        writeInProgress := true
        writeTimedOut := false
        writing := c.writing ++ [_] }) ⟨hheard.1, hheard.2⟩ (by simp)

theorem Heard.prepareAndWrite (hheard : Heard c phase) (command : CommandWithData) :
    Heard (c.prepareAndWrite command) phase := by
  have hprepared : Heard (({ c with count := c.count + 1 }.note
      (.prepared command (c.nextFrame command)))) phase :=
    Heard.note (c := { c with count := c.count + 1 }) ⟨hheard.1, hheard.2⟩ (by simp)
  unfold Client.prepareAndWrite enqueueWrite
  simp only
  split
  · exact Heard.startWrite ⟨hprepared.1, hprepared.2⟩
  · exact ⟨hprepared.1, hprepared.2⟩

theorem Heard.enter {state : State} (hheard : Heard c state.phase) :
    Heard (c.enter state) (c.enter state).currentState.phase := by
  have hstate : Heard { c with currentState := state } state.phase :=
    ⟨hheard.1, hheard.2⟩
  unfold Client.enter
  simp only
  split
  · exact hstate.post rfl
  · exact hstate

theorem Heard.turn (hheard : Heard c c.currentState.phase) {event : Event}
    (hposted : c.posted = .event event :: rest) (hturn : Turn c rest event c') :
    Heard c' c'.currentState.phase := by
  have hbusy : ∀ state, c.currentState = state → state ≠ .idle →
      (c.taken rest).currentState ≠ .idle := by
    rintro _ rfl hbusy
    exact hbusy
  have htaken : Heard (c.taken rest) c.currentState.phase := hheard.taken hposted
  have htimeout : (c.taken rest).currentState ≠ .idle →
      Heard ((c.taken rest).handleCmdErrorOrTimeout .sTimeout) .idle := fun hbusy =>
    (htaken.aside (aside_failure hbusy (by decide))).leave (by decide)
  have hfailed : (c.taken rest).currentState ≠ .idle →
      Heard ((c.taken rest).handleCmdErrorOrTimeout .sSendcmdfail) .idle := by
    intro hbusy
    have hnoted : Heard ((c.taken rest).note (.failed c.currentCmd .sSendcmdfail)) .idle :=
      (htaken.leave (by decide)).note (by simp)
    exact hnoted.aside (aside_handleCmdErrorOrTimeout hbusy _)
  have hchunks : ∀ {d : Client}, Heard d .idle →
      Heard ((d.processUploadLcscFilesEvent .cdfileUploadFailed).withChunks []) .idle := by
    intro d hd
    have hnoted : Heard (d.processUploadLcscFilesEvent .cdfileUploadFailed) .idle :=
      hd.note (by simp)
    exact hnoted
  cases hturn with
  | ignored => exact htaken
  | @launch command others hstate =>
      have hdequeued : Heard ((c.taken rest).dequeued command others) .sending :=
        Heard.note (c := { c.taken rest with commandQueue := others, currentCmd := command.cmd })
          (htaken.leave (by decide)) (by simp)
      exact Heard.enter (c := Client.start _ _) (hdequeued.prepareAndWrite command)
  | @launchChunks command chunk others chunks hstate =>
      have hdequeued : Heard (((c.taken rest).dequeued command others).withChunks chunks) .sending :=
        Heard.note (c := { c.taken rest with commandQueue := others, currentCmd := command.cmd })
          (htaken.leave (by decide)) (by simp)
      exact Heard.enter (c := Client.start _ _) (hdequeued.prepareAndWrite chunk)
  | complete hsending =>
      have hwaiting : Heard (((c.taken rest).cancel .serialWrite).start .rsp) .waiting :=
        ⟨(hposted ▸ hheard.1).complete, hheard.2⟩
      refine Heard.enter ?_
      cases hstate : c.currentState <;> exact hwaiting
  | fail hstate => exact (hfailed (hbusy _ hstate (by decide))).enter
  | failChunks hstate =>
      exact (hchunks (hfailed (hbusy _ hstate (by decide)))).enter
  | timeout hstate => exact (htimeout (hbusy _ hstate (by decide))).enter
  | timeoutChunks hstate =>
      exact (hchunks (htimeout (hbusy _ hstate (by decide)))).enter
  | respond hwaiting =>
      have hbusy : (c.taken rest).currentState ≠ .idle := by
        intro hidle
        rw [show c.currentState = _ from hidle] at hwaiting
        exact absurd hwaiting (by decide)
      obtain ⟨settle, d, hends, haside, hsame⟩ := handleRxBuffer_eq hbusy
      have hmute : Handler.isMute (.event settle) = true := by
        cases settle <;> first | rfl | exact absurd hends Bool.false_ne_true
      rw [hsame, show (d.processEvent settle).currentState = _ from haside.state]
      exact (Heard.aside (c := (c.taken rest).answering) htaken haside).post hmute
  | finish | completeChunks => exact (htaken.leave (by decide)).enter
  | rejectChunks =>
      exact Heard.enter (c := Client.withChunks _ []) (htaken.leave (by decide))
  | breakChunks hstate =>
      have hbroken : Heard ((c.taken rest).handleCmdErrorOrTimeout .rNotRespCmd) .idle :=
        (htaken.aside (aside_failure (hbusy _ hstate (by decide)) (by decide))).leave (by decide)
      exact Heard.enter (c := Client.withChunks _ []) hbroken
  | @next chunk chunks hstate hchunks =>
      have hsending : Heard ((c.taken rest).withChunks chunks) .sending := htaken.leave (by decide)
      exact Heard.enter (c := Client.start _ _) (hsending.prepareAndWrite chunk)
  | nextNone =>
      exact Heard.enter (c := Client.start _ _) (htaken.leave (by decide))

theorem Heard.checkCommandQueue (hheard : Heard c phase) : Heard c.checkCommandQueue phase := by
  unfold Client.checkCommandQueue
  split
  · exact hheard
  · split
    · exact hheard
    · split
      · exact hheard.post rfl
      · exact hheard.post rfl

theorem Heard.handleSerialWriteTimeout (hheard : Heard c phase) :
    Heard c.handleSerialWriteTimeout phase := by
  unfold Client.handleSerialWriteTimeout
  split
  · exact hheard.post rfl
  · rw [cancelPort_eq]
    refine ⟨(hheard.1.posts fun handler hmem => ?_).posts fun handler hmem => ?_, hheard.2⟩
    · split at hmem
      · rw [List.mem_singleton.mp hmem]
        rfl
      · exact absurd hmem List.not_mem_nil
    · obtain ⟨frame, -, rfl⟩ := List.mem_map.mp hmem
      rfl

theorem Heard.writeEnd {error : WriteError} (hheard : Heard c phase)
    (hposted : c.posted = .writeEnd error :: rest) (hphase : phase ≠ .waiting) :
    Heard ((c.taken rest).writeEnd error) phase := by
  have htaken : Heard (c.taken rest) phase := hheard.taken hposted
  unfold Client.writeEnd
  simp only
  split
  · exact ⟨htaken.1.post rfl, htaken.2⟩
  · cases error with
    | none => exact ⟨(hposted ▸ hheard.1).writeEnd hphase, hheard.2⟩
    | operationAborted => exact ⟨htaken.1, htaken.2⟩
    | other => exact ⟨htaken.1.post rfl, htaken.2⟩

theorem Heard.readEnd {data : List UInt8} {number : ℕ} (hheard : Heard c phase)
    (hposted : c.posted = .readEnd data number :: rest)
    (hnone : .event .responseReceived ∉ rest) :
    Heard ((c.taken rest).readEnd data number) phase := by
  have htaken : Heard (c.taken rest) phase := hheard.taken hposted
  unfold Client.readEnd
  simp only
  split
  · split
    · exact ⟨(hposted ▸ hheard.1).readEnd hnone, hheard.2⟩
    · exact ⟨htaken.1, htaken.2⟩
  · split
    · exact ⟨(hposted ▸ hheard.1).readEnd hnone, hheard.2⟩
    · exact ⟨htaken.1, htaken.2⟩

theorem Heard.runHandler (hheard : Heard c c.currentState.phase) (horderly : Orderly c)
    (hposted : c.posted = handler :: rest) (hevent : ∀ event, handler ≠ .event event) :
    Heard ((c.taken rest).runHandler handler) c.currentState.phase := by
  have htaken : Heard (c.taken rest) c.currentState.phase := hheard.taken hposted
  cases handler with
  | event raised => exact absurd rfl (hevent raised)
  | checkCommandQueue => exact htaken.checkCommandQueue
  | enqueueCommandOnIoThread command =>
      exact Heard.checkCommandQueue
        (c := { c.taken rest with commandQueue := c.commandQueue ++ [command] }) htaken
  | expired timer =>
      cases timer with
      | rsp => exact htaken.post rfl
      | serialWriteDelay => exact htaken.startWrite
      | serialWrite => exact htaken.handleSerialWriteTimeout
  | writeEnd error =>
      obtain ⟨hsending, -⟩ := horderly.sending hposted rfl (by simp)
      exact hheard.writeEnd hposted (by rw [hsending]; decide)
  | readEnd data number =>
      have hsorted := horderly.sorted
      rw [kinds_of_posted hposted] at hsorted
      have hreceived : .received ∉ (c.taken rest).kinds :=
        hsorted.head (by simp [Ordered, Handler.kind])
      exact hheard.readEnd hposted fun hmem => hreceived (List.mem_map.mpr ⟨_, hmem, rfl⟩)
  | readFailed => exact htaken

theorem Heard.writeDone (hheard : Heard c c.currentState.phase) (horderly : Orderly c)
    {frame : TxFrame} {others : List TxFrame} (hwriting : c.writing = frame :: others)
    (success : Bool) : Heard (c.step (.writeDone success)) c.currentState.phase := by
  obtain ⟨hsending, hstage, -, -⟩ := horderly.writing hwriting
  have hphase : c.currentState.phase ≠ .waiting := by
    rw [hsending]
    decide
  have hqueued := hstage.unwritten (by simp [transmission, hwriting])
  have hnone : ∀ handler : Handler, isWrite handler = true →
      handler ≠ .expired .serialWrite → handler ∉ c.posted := by
    intro handler hwrite hother hmem
    exact hother (hqueued handler (List.mem_filter.mpr ⟨hmem, hwrite⟩))
  cases success with
  | true =>
      have hsame : c.step (.writeDone true) =
          ({ c with writing := others, lastWritten := frame.number }.note
            (.written frame)).post (.writeEnd .none) := by
        simp [step, hwriting]
      rw [hsame]
      exact ⟨hheard.1.writeDone hphase (hnone _ rfl (by simp)) (hnone _ rfl (by simp))
        frame.number, rfl⟩
  | false =>
      have hsame : c.step (.writeDone false) =
          { c with writing := others }.post (.writeEnd .other) := by
        simp [step, hwriting]
      rw [hsame]
      exact ⟨hheard.1.post rfl, hheard.2⟩

theorem Heard.send (hheard : Heard c phase) (request : Request) :
    Heard (c.send request) phase := by
  have hpolls : Heard (if request.polls then { c with continueReadFlag := true } else c) phase := by
    split
    · exact hheard
    · exact hheard
  unfold Client.send
  cases request.command with
  | none => exact hpolls
  | some command => exact hpolls.post rfl

theorem Heard.step (hheard : Heard c c.currentState.phase) (horderly : Orderly c)
    (input : Input) : Heard (c.step input) (c.step input).currentState.phase := by
  cases input with
  | run =>
      by_cases hnone : c.posted = []
      · have hsame : c.step .run = c := by simp [Client.step, hnone]
        rw [hsame]
        exact hheard
      · obtain ⟨handler, rest, hposted⟩ := List.exists_cons_of_ne_nil hnone
        have hsame : c.step .run = (c.taken rest).runHandler handler := by
          simp [Client.step, hposted, Client.taken]
        rw [hsame]
        by_cases hevent : ∃ event, handler = .event event
        · obtain ⟨event, rfl⟩ := hevent
          exact hheard.turn hposted (horderly.turn hposted)
        · have hother : ∀ event, handler ≠ .event event := fun event heq => hevent ⟨event, heq⟩
          rw [(between_runHandler (c.taken rest) hother).state]
          exact hheard.runHandler horderly hposted hother
  | expire timer =>
      change Heard (if c.armed timer then (c.cancel timer).post (.expired timer) else c)
        (if c.armed timer then (c.cancel timer).post (.expired timer) else c).currentState.phase
      split
      · exact Heard.post (c := c.cancel timer) hheard rfl
      · exact hheard
  | writeDone success =>
      by_cases hnone : c.writing = []
      · have hsame : c.step (.writeDone success) = c := by simp [Client.step, hnone]
        rw [hsame]
        exact hheard
      · obtain ⟨frame, others, hwriting⟩ := List.exists_cons_of_ne_nil hnone
        have hstate : (c.step (.writeDone success)).currentState = c.currentState :=
          (between_step fun hrun => Input.noConfusion hrun).state
        rw [hstate]
        exact hheard.writeDone horderly hwriting success
  | readDone data =>
      by_cases hreading : c.reading = true
      · have hsame : c.step (.readDone data) =
            { c with reading := false }.post (.readEnd data c.lastWritten) := if_pos hreading
        rw [hsame]
        exact ⟨hheard.1.readDone data, hheard.2⟩
      · have hsame : c.step (.readDone data) = c := if_neg hreading
        rw [hsame]
        exact hheard
  | readFailed =>
      by_cases hreading : c.reading = true
      · have hsame : c.step .readFailed = { c with reading := false }.post .readFailed :=
          if_pos hreading
        rw [hsame]
        exact Heard.post (c := { c with reading := false }) hheard rfl
      · have hsame : c.step .readFailed = c := if_neg hreading
        rw [hsame]
        exact hheard
  | send request =>
      change Heard (c.send request) (c.send request).currentState.phase
      rw [(between_send c request).state]
      exact hheard.send request
  | stopRead | clock _ | elapse _ => exact hheard

theorem heard_init (evp : Evp) (epochSeconds : UInt32) :
    Heard (init evp epochSeconds) (init evp epochSeconds).currentState.phase := by
  have hempty : Heard { ({ evp := evp, epochSeconds := epochSeconds, now := 0 } : Client) with
      commandQueue := [⟨.login1, .null⟩] } .idle :=
    ⟨⟨.nil, by simp, by simp⟩, rfl⟩
  exact hempty.checkCommandQueue

/-- While the client waits, what is in front of it has been received after the frame prepared
last was written. -/
theorem Heard.received (hheard : Heard c c.currentState.phase) (horderly : Orderly c)
    (hwaiting : c.currentState.phase = .waiting)
    (hposted : c.posted = .event .responseReceived :: rest) :
    ∃ command frame, lastPrepared c.log = some (command, frame) ∧
      c.receivedAfter = frame.number := by
  have hcarried := horderly.carried
  rw [hwaiting] at hcarried
  obtain ⟨command, frame, hprepared⟩ := lastPrepared_of_written hcarried.2
  refine ⟨command, frame, hprepared, ?_⟩
  rw [hheard.1.received hwaiting (hposted ▸ List.mem_cons_self), hheard.2]
  exact lastNumber_of_written hcarried.2 horderly.sent hprepared

end Client

end LinuxPBS.Lcsc

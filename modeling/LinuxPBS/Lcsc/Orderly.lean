import LinuxPBS.Lcsc.Reports

/-!
# The queue and the frame of the client of the card reader

`Orderly` collects what holds of the queued handlers, the frame that is being sent and the
command queue.  It is kept by every step but one: the write timer must not run out while a
frame waits for the silence of the line (`Patient`), for then the frame stays in `writeQueue_`
behind the failed command.
-/

namespace LinuxPBS.Lcsc

open Machine

namespace Client

/-- What the writes of the client work on. -/
def transmission (c : Client) : Transmission :=
  ⟨c.writeQueue, c.writeInProgress, c.writeTimedOut, c.writing, c.armed .serialWriteDelay,
    c.armed .serialWrite, writeHandlers c.posted⟩

/-- The kinds of the queued handlers. -/
def kinds (c : Client) : List Kind := c.posted.map Handler.kind

/-- The events that take a command from the queue are of the kind of its front. -/
def Fronted (posted : List Handler) (commandQueue : List CommandWithData) : Prop :=
  (.event .commandEnqueued ∈ posted →
    ∃ front rest, commandQueue = front :: rest ∧ isChunkedCommand front.cmd = false) ∧
  (.event .chunkCommandEnqueued ∈ posted →
    ∃ front rest, commandQueue = front :: rest ∧ isChunkedCommand front.cmd = true)

/-- An upload is what one of the functions for that sends. -/
def Loaded (command : CommandWithData) : Prop :=
  isChunkedCommand command.cmd = true → ∃ request : Request, request.command = some command

/-- A file to upload has at least the final block. -/
theorem chunksOf_ne_nil {command : CommandWithData} (hloaded : Loaded command)
    (hchunk : isChunkedCommand command.cmd = true) : chunksOf command ≠ [] := by
  obtain ⟨request, hcommand⟩ := hloaded hchunk
  cases request with
  | uploadCfgFile fileData | uploadCilFile fileData | uploadBlFile fileData =>
      simp only [Request.command] at hcommand
      split at hcommand
      · obtain rfl := Option.some.inj hcommand
        simp [chunksOf, cfgChunks, cilChunks, blChunks, listChunks]
      · exact absurd hcommand (by simp)
  | _ =>
      obtain rfl := Option.some.inj hcommand
      exact absurd hchunk (by simp [isChunkedCommand])

/-- The states for uploads are those of the upload commands. -/
def Suited (state : State) (cmd : Cmd) : Prop :=
  match state with
  | .idle => True
  | .sendingRequestAsync | .waitingForResponse => isChunkedCommand cmd = false
  | .sendingChunkCommandRequestAsync | .waitingForChunkCommandResponse =>
      isChunkedCommand cmd = true

/-- The queue of handlers is in order and fits what is being written. -/
structure Orderly (c : Client) : Prop where
  sorted : Sorted c.currentState.phase (c.armed .rsp) c.reading c.kinds
  carried : Carried c.currentState.phase c.transmission c.log
  sent : SentLast c.log
  fronted : c.currentState = .idle → Fronted c.posted c.commandQueue
  loaded : ∀ command ∈ c.commandQueue, Loaded command
  announced : ∀ command, .enqueueCommandOnIoThread command ∈ c.posted → Loaded command
  suited : Suited c.currentState c.currentCmd

/-- The write timer does not run out while a frame waits for the silence of the line. -/
def Patient (c : Client) (input : Input) : Prop :=
  match input, c.posted with
  | .run, .expired .serialWrite :: _ => c.writeInProgress = true ∨ c.writeQueue = []
  | _, _ => True

instance (c : Client) (input : Input) : Decidable (Patient c input) := by
  unfold Patient
  split <;> infer_instance

/-! ## Handlers that are taken and posted -/

variable {c c' : Client} {handler : Handler} {rest : List Handler}

/-- The first handler is taken from the queue. -/
def taken (c : Client) (rest : List Handler) : Client := { c with posted := rest }

theorem kinds_post (c : Client) (handler : Handler) :
    (c.post handler).kinds = c.kinds ++ [handler.kind] := by
  simp [kinds, post]

theorem kinds_of_posted (hposted : c.posted = handler :: rest) :
    c.kinds = handler.kind :: (c.taken rest).kinds := by
  simp [kinds, hposted, taken]

theorem writeHandlers_concat (hwrite : isWrite handler = true) (posted : List Handler) :
    writeHandlers (posted ++ [handler]) = writeHandlers posted ++ [handler] := by
  simp [writeHandlers, hwrite]

theorem writeHandlers_other (hother : isWrite handler = false) (posted : List Handler) :
    writeHandlers (posted ++ [handler]) = writeHandlers posted := by
  simp [writeHandlers, hother]

/-- A handler that has nothing to do with a write does not change what is written. -/
theorem transmission_post (hother : isWrite handler = false) :
    (c.post handler).transmission = c.transmission := by
  simp [transmission, post, writeHandlers_other hother]

theorem transmission_post_write (hwrite : isWrite handler = true) :
    (c.post handler).transmission =
      { c.transmission with queued := c.transmission.queued ++ [handler] } := by
  simp [transmission, post, writeHandlers_concat hwrite]

theorem transmission_taken (hposted : c.posted = handler :: rest)
    (hother : isWrite handler = false) : (c.taken rest).transmission = c.transmission := by
  simp [transmission, taken, hposted, writeHandlers, hother]

theorem queued_taken (hposted : c.posted = handler :: rest) (hwrite : isWrite handler = true) :
    c.transmission.queued = handler :: writeHandlers rest := by
  simp [transmission, hposted, writeHandlers, hwrite]

theorem Fronted.sublist {posted posted' : List Handler} {commandQueue : List CommandWithData}
    (hfronted : Fronted posted commandQueue) (hsub : ∀ handler ∈ posted', handler ∈ posted) :
    Fronted posted' commandQueue :=
  ⟨fun hmem => hfronted.1 (hsub _ hmem), fun hmem => hfronted.2 (hsub _ hmem)⟩

theorem Fronted.post {posted : List Handler} {commandQueue : List CommandWithData}
    (hfronted : Fronted posted commandQueue) (hkind : handler.kind ≠ .launch) :
    Fronted (posted ++ [handler]) commandQueue := by
  have hcommand : handler ≠ .event .commandEnqueued := by
    rintro rfl
    exact hkind rfl
  have hchunks : handler ≠ .event .chunkCommandEnqueued := by
    rintro rfl
    exact hkind rfl
  constructor
  · intro hmem
    rcases List.mem_append.mp hmem with hold | hnew
    · exact hfronted.1 hold
    · exact absurd (List.mem_singleton.mp hnew).symm hcommand
  · intro hmem
    rcases List.mem_append.mp hmem with hold | hnew
    · exact hfronted.2 hold
    · exact absurd (List.mem_singleton.mp hnew).symm hchunks

/-- What is announced stays so when a handler of another kind is posted. -/
theorem announced_post {posted : List Handler}
    (hannounced : ∀ command, .enqueueCommandOnIoThread command ∈ posted → Loaded command)
    (hother : ∀ command, handler = .enqueueCommandOnIoThread command → Loaded command) :
    ∀ command, .enqueueCommandOnIoThread command ∈ posted ++ [handler] → Loaded command := by
  intro command hmem
  rcases List.mem_append.mp hmem with hold | hnew
  · exact hannounced command hold
  · exact hother command (List.mem_singleton.mp hnew).symm

/-- A handler is taken that has nothing to do with a write. -/
theorem Orderly.taken (horderly : Orderly c) (hposted : c.posted = handler :: rest)
    (hother : isWrite handler = false) : Orderly (c.taken rest) where
  sorted := (kinds_of_posted hposted ▸ horderly.sorted).tail
  carried := (transmission_taken hposted hother).symm ▸ horderly.carried
  sent := horderly.sent
  fronted hidle := (horderly.fronted hidle).sublist fun _ hmem =>
    hposted ▸ List.mem_cons_of_mem _ hmem
  loaded := horderly.loaded
  announced command hmem := horderly.announced command (hposted ▸ List.mem_cons_of_mem _ hmem)
  suited := horderly.suited

/-- A handler is posted that has nothing to do with a write. -/
theorem Orderly.post (horderly : Orderly c) (hother : isWrite handler = false)
    (hkind : handler.kind ≠ .launch)
    (hloaded : ∀ command, handler = .enqueueCommandOnIoThread command → Loaded command)
    (hsorted : Sorted c.currentState.phase (c.armed .rsp) c.reading
      (c.kinds ++ [handler.kind])) : Orderly (c.post handler) where
  sorted := kinds_post c handler ▸ hsorted
  carried := (transmission_post hother).symm ▸ horderly.carried
  sent := horderly.sent
  fronted hidle := (horderly.fronted hidle).post hkind
  loaded := horderly.loaded
  announced := announced_post horderly.announced hloaded
  suited := horderly.suited

/-! ## Commands -/

/-- In `IDLE` the event is posted that fits the front of the queue. -/
theorem Orderly.checkCommandQueue (horderly : Orderly c) : Orderly c.checkCommandQueue := by
  unfold Client.checkCommandQueue
  split
  · exact horderly
  · next hbusy =>
      have hidle : c.currentState = .idle := not_not.mp hbusy
      have hsorted := horderly.sorted
      rw [hidle] at hsorted
      have hposts : ∀ event : Event, event.kind = .launch →
          Fronted (c.posted ++ [.event event]) c.commandQueue →
          Orderly (c.processEvent event) := by
        intro event hkind hfronted
        refine ⟨?_, ?_, horderly.sent, fun _ => hfronted, horderly.loaded,
          announced_post horderly.announced (by simp), horderly.suited⟩
        · have hlaunch := hsorted.launch
          have hphase : c.currentState.phase = .idle := by rw [hidle]; rfl
          rw [← hkind, ← hphase] at hlaunch
          exact kinds_post c (.event event) ▸ hlaunch
        · have hother : isWrite (.event event) = false := by simp [isWrite, Handler.kind, hkind]
          exact (transmission_post hother).symm ▸ horderly.carried
      have hfronted := horderly.fronted hidle
      split
      · exact horderly
      · next front others hqueue =>
          split
          · next hchunk =>
              refine hposts .chunkCommandEnqueued rfl ⟨fun hmem => ?_, fun _ => ?_⟩
              · exact hfronted.1 (by simpa using hmem)
              · exact ⟨front, others, hqueue, hchunk⟩
          · next hplain =>
              refine hposts .commandEnqueued rfl ⟨fun _ => ?_, fun hmem => ?_⟩
              · exact ⟨front, others, hqueue, by simpa using hplain⟩
              · exact hfronted.2 (by simpa using hmem)

theorem Orderly.enqueueCommandOnIoThread (horderly : Orderly c) {command : CommandWithData}
    (hloaded : Loaded command) : Orderly (c.enqueueCommandOnIoThread command) := by
  refine Orderly.checkCommandQueue ⟨horderly.sorted, horderly.carried, horderly.sent,
    fun hidle => ?_, ?_, horderly.announced, horderly.suited⟩
  · obtain ⟨hcommand, hchunks⟩ := horderly.fronted hidle
    constructor
    · intro hmem
      obtain ⟨front, others, hqueue, hplain⟩ := hcommand hmem
      exact ⟨front, others ++ [command], by simp [hqueue], hplain⟩
    · intro hmem
      obtain ⟨front, others, hqueue, hchunk⟩ := hchunks hmem
      exact ⟨front, others ++ [command], by simp [hqueue], hchunk⟩
  · intro other hmem
    rcases List.mem_append.mp hmem with hold | hnew
    · exact horderly.loaded other hold
    · exact List.mem_singleton.mp hnew ▸ hloaded

theorem loaded_of_extends {commands commands' : List CommandWithData}
    (hextends : Extends commands commands') (hloaded : ∀ command ∈ commands, Loaded command) :
    ∀ command ∈ commands', Loaded command := by
  intro command hmem
  rcases hextends command hmem with hold | hplain
  · exact hloaded command hold
  · exact fun hchunk => absurd (hplain.symm.trans hchunk) Bool.false_ne_true

/-! ## Transitions -/

/-- The client becomes idle, and posts that the queue is to be looked at. -/
theorem orderly_enter_idle (hsorted : Sorted .idle (c.armed .rsp) c.reading c.kinds)
    (hlaunch : .launch ∉ c.kinds) (hresting : Resting c.transmission) (hsent : SentLast c.log)
    (hloaded : ∀ command ∈ c.commandQueue, Loaded command)
    (hannounced : ∀ command, .enqueueCommandOnIoThread command ∈ c.posted → Loaded command) :
    Orderly (c.enter .idle) := by
  have hfronted : Fronted c.posted c.commandQueue := by
    constructor
    · exact fun hmem => absurd (List.mem_map.mpr ⟨_, hmem, rfl⟩) hlaunch
    · exact fun hmem => absurd (List.mem_map.mpr ⟨_, hmem, rfl⟩) hlaunch
  have hidle : Orderly { c with currentState := .idle } :=
    ⟨hsorted, hresting, hsent, fun _ => hfronted, hloaded, hannounced, trivial⟩
  have hposted : Orderly ({ c with currentState := .idle }.post .checkCommandQueue) :=
    hidle.post rfl (by decide) (by simp) hsorted.other
  exact hposted

/-- The write of a frame has failed. -/
theorem Orderly.fail (horderly : Orderly c) (hsending : c.currentState.phase = .sending)
    {event : Event} (hposted : c.posted = .event event :: rest) (hkind : event.kind = .write)
    {d : Client} (haside : (((c.taken rest).cancel .serialWrite).note
      (.failed c.currentCmd .sSendcmdfail)).Aside d) (chunks : List CommandWithData) :
    Orderly ({ d with chunkCommandQueue := chunks }.enter .idle) := by
  have hsorted := horderly.sorted
  have hcarried := horderly.carried
  rw [hsending, kinds_of_posted hposted] at hsorted
  rw [hsending] at hcarried
  simp only [Handler.kind, hkind] at hsorted
  have hlaunch : .launch ∉ (c.taken rest).kinds := hsorted.head (by simp [Ordered])
  have hwrite : isWrite (.event event) = true := by simp [isWrite, Handler.kind, hkind]
  obtain ⟨hresting, -⟩ := Stage.ends hcarried (queued_taken hposted hwrite)
  obtain ⟨newer, commandQueue, flag, rfl, hnewer, hextends⟩ := haside
  refine orderly_enter_idle hsorted.fail hlaunch ?_ ?_ (loaded_of_extends hextends horderly.loaded) ?_
  · exact ⟨hresting.queue, hresting.progress, hresting.writing, hresting.delayed, rfl,
      hresting.queued⟩
  · exact SentLast.reports (horderly.sent.cons (by simp) (by simp)) hnewer
  · exact fun command hmem => horderly.announced command (hposted ▸ List.mem_cons_of_mem _ hmem)

/-- The wait for a response ends. -/
theorem Orderly.endWait (horderly : Orderly c) (hwaiting : c.currentState.phase = .waiting)
    {event : Event} (hposted : c.posted = .event event :: rest)
    (hkind : event.kind = .rspTimeout ∨ event.kind = .settle)
    {d : Client} (haside : (c.taken rest).Aside d) (chunks : List CommandWithData) :
    Orderly ({ d with chunkCommandQueue := chunks }.enter .idle) := by
  have hsorted := horderly.sorted
  have hcarried := horderly.carried
  rw [hwaiting, kinds_of_posted hposted] at hsorted
  rw [hwaiting] at hcarried
  have hlaunch : .launch ∉ (c.taken rest).kinds :=
    fun hmem => hsorted.content.1 (List.mem_cons_of_mem _ hmem)
  have hother : isWrite (.event event) = false := by
    rcases hkind with hkind | hkind <;> simp [isWrite, Handler.kind, hkind]
  have hresting : Resting (c.taken rest).transmission :=
    (transmission_taken hposted hother).symm ▸ hcarried.1
  obtain ⟨newer, commandQueue, flag, rfl, hnewer, hextends⟩ := haside
  refine orderly_enter_idle (hsorted.end hkind) hlaunch hresting ?_
    (loaded_of_extends hextends horderly.loaded) ?_
  · exact horderly.sent.reports hnewer
  · exact fun command hmem => horderly.announced command (hposted ▸ List.mem_cons_of_mem _ hmem)

/-- A response is handled, and the client waits on for the event of that. -/
theorem Orderly.respond (horderly : Orderly c) (hwaiting : c.currentState.phase = .waiting)
    (hposted : c.posted = .event .responseReceived :: rest) :
    Orderly (c.taken rest).handleRxBuffer := by
  have hbusy : c.currentState ≠ .idle := by
    intro hidle
    rw [hidle] at hwaiting
    exact absurd hwaiting (by decide)
  have hsorted := horderly.sorted
  have hcarried := horderly.carried
  rw [hwaiting, kinds_of_posted hposted] at hsorted
  rw [hwaiting] at hcarried
  obtain ⟨settle, d, hends, haside, hsame⟩ := handleRxBuffer_eq (c := c.taken rest) hbusy
  have hkind := Event.kind_of_endsWait hends
  obtain ⟨newer, commandQueue, flag, rfl, hnewer, hextends⟩ := haside
  have hother : isWrite (.event settle) = false := by simp [isWrite, Handler.kind, hkind]
  have hresting : Resting (c.taken rest).transmission :=
    (transmission_taken hposted rfl).symm ▸ hcarried.1
  rw [hsame]
  refine ⟨?_, ?_, horderly.sent.reports hnewer, fun hidle => absurd hidle hbusy,
    loaded_of_extends hextends horderly.loaded, ?_, horderly.suited⟩
  · have hsettled := hsorted.settle
    rw [← hkind, ← hwaiting] at hsettled
    exact kinds_post _ (.event settle) ▸ hsettled
  · have hcarried : Carried .waiting (c.taken rest).transmission (newer ++ c.log) :=
      ⟨hresting, hcarried.2.reports hnewer⟩
    rw [← hwaiting] at hcarried
    exact (transmission_post hother).symm ▸ hcarried
  · refine announced_post (fun command hmem => ?_) (by simp)
    exact horderly.announced command (hposted ▸ List.mem_cons_of_mem _ hmem)

/-- The state in which the response to a frame is waited for. -/
def waitingState : State → State
  | .sendingChunkCommandRequestAsync => .waitingForChunkCommandResponse
  | _ => .waitingForResponse

/-- A frame has been written. -/
theorem Orderly.complete (horderly : Orderly c) (hsending : c.currentState.phase = .sending)
    (hposted : c.posted = .event .writeCompleted :: rest) :
    Orderly ((((c.taken rest).cancel .serialWrite).start .rsp).enter
      (waitingState c.currentState)) := by
  have hsorted := horderly.sorted
  have hcarried := horderly.carried
  rw [hsending, kinds_of_posted hposted] at hsorted
  rw [hsending] at hcarried
  obtain ⟨hresting, hwritten⟩ := Stage.ends hcarried (queued_taken hposted rfl)
  have hstate : ∀ state : State, state.phase = .sending →
      (waitingState state).phase = .waiting ∧ waitingState state ≠ .idle ∧
        (Suited state c.currentCmd → Suited (waitingState state) c.currentCmd) := by
    intro state hphase
    cases state with
    | idle => exact absurd hphase (by decide)
    | sendingRequestAsync => exact ⟨rfl, by decide, id⟩
    | waitingForResponse => exact absurd hphase (by decide)
    | sendingChunkCommandRequestAsync => exact ⟨rfl, by decide, id⟩
    | waitingForChunkCommandResponse => exact absurd hphase (by decide)
  obtain ⟨hphase, hbusy, hsuited⟩ := hstate c.currentState hsending
  have henter : ∀ d : Client, d.enter (waitingState c.currentState) =
      { d with currentState := waitingState c.currentState } := fun d => if_neg hbusy
  rw [henter]
  refine ⟨?_, ?_, horderly.sent, fun hidle => absurd hidle hbusy, horderly.loaded, ?_,
    hsuited horderly.suited⟩
  · have hcomplete := hsorted.complete
    rw [← hphase] at hcomplete
    exact hcomplete
  · have hcarried : Carried .waiting
        (((c.taken rest).cancel .serialWrite).start .rsp).transmission c.log :=
      ⟨⟨hresting.queue, hresting.progress, hresting.writing, hresting.delayed, rfl,
        hresting.queued⟩, hwritten rfl⟩
    rw [← hphase] at hcarried
    exact hcarried
  · exact fun command hmem => horderly.announced command (hposted ▸ List.mem_cons_of_mem _ hmem)

/-! ## Frames that are sent -/

/-- A frame waits for the silence of the line, or is handed to the port. -/
theorem startWrite_cases {frame : TxFrame} {others : List TxFrame}
    (hqueue : c.writeQueue = frame :: others) :
    c.startWrite = c.start .serialWriteDelay ∨
      c.startWrite = { c with
        writeInProgress := true
        writeTimedOut := false
        writing := c.writing ++ [frame] }.note (.handed frame) := by
  unfold startWrite
  rw [hqueue]
  simp only
  split
  · exact .inl rfl
  · exact .inr rfl

/-- A frame is prepared while nothing is being written. -/
def prepared (c : Client) (command : CommandWithData) : Client :=
  { c with count := c.count + 1, writeQueue := [c.nextFrame command] }.note
    (.prepared command (c.nextFrame command))

theorem prepareAndWrite_eq (hresting : Resting c.transmission) (command : CommandWithData) :
    c.prepareAndWrite command = (c.prepared command).startWrite := by
  have hqueue : c.writeQueue = [] := hresting.queue
  have hprogress : c.writeInProgress = false := hresting.progress
  simp [prepareAndWrite, enqueueWrite, prepared, note, hqueue, hprogress]

/-- The first frame of a command, or the next one, is on its way. -/
theorem orderly_prepareAndWrite (hresting : Resting c.transmission)
    (hsorted : Sorted .sending (c.armed .rsp) c.reading c.kinds) (hnone : .write ∉ c.kinds)
    (hsent : SentLast c.log) (hloaded : ∀ command ∈ c.commandQueue, Loaded command)
    (hannounced : ∀ command, .enqueueCommandOnIoThread command ∈ c.posted → Loaded command)
    (next : State) (hnext : next.phase = .sending) (hsuited : Suited next c.currentCmd)
    (command : CommandWithData) :
    Orderly (((c.prepareAndWrite command).start .serialWrite).enter next) := by
  have hbusy : next ≠ .idle := by
    rintro rfl
    exact absurd hnext (by decide)
  have hqueued : writeHandlers c.posted = [] := by
    refine List.filter_eq_nil_iff.mpr fun handler hmem hwrite => hnone ?_
    exact List.mem_map.mpr ⟨handler, hmem, by simpa [isWrite] using hwrite⟩
  have henter : ∀ d : Client, d.enter next = { d with currentState := next } :=
    fun d => if_neg hbusy
  rw [henter, prepareAndWrite_eq hresting]
  rw [← hnext] at hsorted
  have hstage : ∀ d : Client, Stage d.transmission d.log →
      Carried next.phase d.transmission d.log := by
    intro d hstage
    rw [hnext]
    exact hstage
  have hlast : (lastPrepared (c.prepared command).log).map Prod.snd =
      some (c.nextFrame command) := rfl
  have hqueue : (c.prepared command).writeQueue = [c.nextFrame command] := rfl
  rcases startWrite_cases hqueue with hwait | hhanded
  · rw [hwait]
    refine ⟨hsorted, hstage _ ?_, hsent, fun hidle => absurd hidle hbusy, hloaded, hannounced,
      hsuited⟩
    exact .delayed (c.nextFrame command) rfl hlast hresting.progress hresting.writing
      (.inl ⟨rfl, .inl ⟨rfl, hqueued⟩⟩)
  · rw [hhanded]
    have hwriting : c.writing ++ [c.nextFrame command] = [c.nextFrame command] := by
      rw [show c.writing = [] from hresting.writing]
      rfl
    refine ⟨hsorted, hstage _ ?_, ⟨hlast, hsent⟩, fun hidle => absurd hidle hbusy, hloaded,
      hannounced, hsuited⟩
    exact .writing (c.nextFrame command) rfl hlast rfl hwriting hresting.delayed rfl
      (.inl ⟨rfl, hqueued⟩)

end Client

end LinuxPBS.Lcsc

import LinuxPBS.Lcsc.Turns

/-!
# Between two events

Only the events of the state machine take up commands, report on them and end them.
`Between` says what every other handler and every input from outside leaves alone, so that a
statement about commands is shown for the turns of `Turn` only.
-/

namespace LinuxPBS.Lcsc

open Machine

/-- The entries that the port makes. -/
def Outcome.isWire : Outcome → Bool
  | .handed _ | .written _ => true
  | _ => false

theorem lastPrepared_wires {newer : List Outcome}
    (hwires : ∀ outcome ∈ newer, outcome.isWire = true) (log : List Outcome) :
    lastPrepared (newer ++ log) = lastPrepared log := by
  induction newer with
  | nil => rfl
  | cons outcome newer ih =>
      have htail := ih fun other hmem => hwires other (List.mem_cons_of_mem _ hmem)
      have hwire := hwires outcome List.mem_cons_self
      cases outcome with
      | handed frame | written frame => exact htail
      | _ => exact absurd hwire Bool.false_ne_true

namespace Client

/-- The queued events that end a wait. -/
def settles (posted : List Handler) : List Handler :=
  posted.filter fun handler => handler.kind = .settle

/-- The second client is as far with its command as the first one. -/
structure Between (c c' : Client) : Prop where
  state : c'.currentState = c.currentState
  cmd : c'.currentCmd = c.currentCmd
  evp : c'.evp = c.evp
  count : c'.count = c.count
  chunks : c'.chunkCommandQueue = c.chunkCommandQueue
  settles : settles c'.posted = settles c.posted
  log : ∃ newer, c'.log = newer ++ c.log ∧ ∀ outcome ∈ newer, outcome.isWire = true

variable {c c' c'' : Client} {handler : Handler} {rest : List Handler}

theorem Between.refl (c : Client) : Between c c :=
  ⟨rfl, rfl, rfl, rfl, rfl, rfl, [], rfl, by simp⟩

theorem Between.trans (hfirst : Between c c') (hsecond : Between c' c'') : Between c c'' := by
  obtain ⟨newer, hnewer, hwires⟩ := hfirst.log
  obtain ⟨newest, hnewest, hwires'⟩ := hsecond.log
  refine ⟨hsecond.state.trans hfirst.state, hsecond.cmd.trans hfirst.cmd,
    hsecond.evp.trans hfirst.evp, hsecond.count.trans hfirst.count,
    hsecond.chunks.trans hfirst.chunks, hsecond.settles.trans hfirst.settles, newest ++ newer, ?_,
    fun outcome hmem => ?_⟩
  · rw [hnewest, hnewer, List.append_assoc]
  · rcases List.mem_append.mp hmem with hmem | hmem
    · exact hwires' outcome hmem
    · exact hwires outcome hmem

theorem settles_concat (hkind : handler.kind ≠ .settle) (posted : List Handler) :
    Client.settles (posted ++ [handler]) = Client.settles posted := by
  simp [Client.settles, hkind]

/-- A handler is posted that ends no wait. -/
theorem between_post (hkind : handler.kind ≠ .settle) : Between c (c.post handler) :=
  ⟨rfl, rfl, rfl, rfl, rfl, settles_concat hkind c.posted, [], rfl, by simp⟩

/-- A handler is taken that ends no wait. -/
theorem between_taken (hposted : c.posted = handler :: rest) (hkind : handler.kind ≠ .settle) :
    Between c (c.taken rest) := by
  refine ⟨rfl, rfl, rfl, rfl, rfl, ?_, [], rfl, by simp⟩
  simp [Client.settles, hposted, Client.taken, hkind]

theorem between_checkCommandQueue (c : Client) : Between c c.checkCommandQueue := by
  unfold checkCommandQueue
  split
  · exact .refl c
  · split
    · exact .refl c
    · split
      · exact between_post (by decide)
      · exact between_post (by decide)

theorem between_startWrite (c : Client) : Between c c.startWrite := by
  by_cases hnone : c.writeQueue = []
  · have hsame : c.startWrite = { c with writeInProgress := false } := by
      rw [startWrite, hnone]
    rw [hsame]
    exact ⟨rfl, rfl, rfl, rfl, rfl, rfl, [], rfl, by simp⟩
  · obtain ⟨frame, others, hqueue⟩ := List.exists_cons_of_ne_nil hnone
    rcases startWrite_cases hqueue with hwait | hhanded
    · rw [hwait]
      exact ⟨rfl, rfl, rfl, rfl, rfl, rfl, [], rfl, by simp⟩
    · rw [hhanded]
      exact ⟨rfl, rfl, rfl, rfl, rfl, rfl, [.handed frame], rfl, by simp [Outcome.isWire]⟩

theorem between_handleSerialWriteTimeout (c : Client) :
    Between c c.handleSerialWriteTimeout := by
  unfold handleSerialWriteTimeout
  split
  · exact between_post (by decide)
  · rw [cancelPort_eq]
    refine ⟨rfl, rfl, rfl, rfl, rfl, ?_, [], rfl, by simp⟩
    have hread : Client.settles (if c.reading then [.readFailed] else []) = [] := by
      split <;> rfl
    have haborts : Client.settles ({ c with writeTimedOut := true } : Client).aborts = [] := by
      simp [Client.settles, aborts, Handler.kind]
    simp only [Client.settles, List.filter_append] at hread haborts ⊢
    rw [hread, haborts, List.append_nil, List.append_nil]

theorem between_writeEnd (c : Client) (error : WriteError) : Between c (c.writeEnd error) := by
  have hstill : Between c { c.cancel .serialWrite with
      writeQueue := c.writeQueue.tail
      writeInProgress := false } :=
    ⟨rfl, rfl, rfl, rfl, rfl, rfl, [], rfl, by simp⟩
  unfold writeEnd
  simp only
  split
  · exact ⟨rfl, rfl, rfl, rfl, rfl, settles_concat (by decide) c.posted, [], rfl, by simp⟩
  · split
    · exact hstill.trans (between_post (by decide))
    · exact hstill
    · exact hstill.trans (between_post (by decide))

theorem between_readEnd (c : Client) (data : List UInt8) (lastWritten : ℕ) :
    Between c (c.readEnd data lastWritten) := by
  unfold readEnd
  simp only
  split
  · split
    · exact ⟨rfl, rfl, rfl, rfl, rfl, settles_concat (by decide) c.posted, [], rfl, by simp⟩
    · exact ⟨rfl, rfl, rfl, rfl, rfl, rfl, [], rfl, by simp⟩
  · split
    · exact ⟨rfl, rfl, rfl, rfl, rfl, settles_concat (by decide) c.posted, [], rfl, by simp⟩
    · exact ⟨rfl, rfl, rfl, rfl, rfl, rfl, [], rfl, by simp⟩

theorem between_enqueueCommandOnIoThread (c : Client) (command : CommandWithData) :
    Between c (c.enqueueCommandOnIoThread command) := by
  have hstill : Between c { c with commandQueue := c.commandQueue ++ [command] } :=
    ⟨rfl, rfl, rfl, rfl, rfl, rfl, [], rfl, by simp⟩
  exact hstill.trans (between_checkCommandQueue _)

theorem between_runHandler (c : Client) (hevent : ∀ event, handler ≠ .event event) :
    Between c (c.runHandler handler) := by
  cases handler with
  | event raised => exact absurd rfl (hevent raised)
  | checkCommandQueue => exact between_checkCommandQueue c
  | enqueueCommandOnIoThread command => exact between_enqueueCommandOnIoThread c command
  | expired timer =>
      cases timer with
      | rsp => exact between_post (by decide)
      | serialWriteDelay => exact between_startWrite c
      | serialWrite => exact between_handleSerialWriteTimeout c
  | writeEnd error => exact between_writeEnd c error
  | readEnd data lastWritten => exact between_readEnd c data lastWritten
  | readFailed => exact ⟨rfl, rfl, rfl, rfl, rfl, rfl, [], rfl, by simp⟩

theorem between_send (c : Client) (request : Request) : Between c (c.send request) := by
  have hpolls : Between c (if request.polls then { c with continueReadFlag := true } else c) := by
    split
    · exact ⟨rfl, rfl, rfl, rfl, rfl, rfl, [], rfl, by simp⟩
    · exact .refl c
  unfold send
  cases request.command with
  | none => exact hpolls
  | some command => exact hpolls.trans (between_post (by simp [Handler.kind]))

/-- An input that does not run an event. -/
theorem between_step {input : Input}
    (hevent : input = .run → ∀ event, c.posted.head? ≠ some (.event event)) :
    Between c (c.step input) := by
  cases input with
  | run =>
      by_cases hnone : c.posted = []
      · have hsame : c.step .run = c := by simp [step, hnone]
        rw [hsame]
        exact .refl c
      · obtain ⟨handler, rest, hposted⟩ := List.exists_cons_of_ne_nil hnone
        have hsame : c.step .run = (c.taken rest).runHandler handler := by
          simp [step, hposted, taken]
        have hother : ∀ event, handler ≠ .event event := by
          rintro event rfl
          exact hevent rfl event (by simp [hposted])
        have hkind : handler.kind ≠ .settle := by
          cases handler with
          | event raised => exact absurd rfl (hother raised)
          | expired timer => cases timer <;> simp [Handler.kind]
          | _ => simp [Handler.kind]
        rw [hsame]
        exact (between_taken hposted hkind).trans (between_runHandler _ hother)
  | expire timer =>
      change Between c (if c.armed timer then (c.cancel timer).post (.expired timer) else c)
      split
      · have hcancel : Between c (c.cancel timer) :=
          ⟨rfl, rfl, rfl, rfl, rfl, rfl, [], rfl, by simp⟩
        refine hcancel.trans (between_post ?_)
        cases timer <;> simp [Handler.kind]
      · exact .refl c
  | writeDone success =>
      by_cases hnone : c.writing = []
      · have hsame : c.step (.writeDone success) = c := by simp [step, hnone]
        rw [hsame]
        exact .refl c
      · obtain ⟨frame, others, hwriting⟩ := List.exists_cons_of_ne_nil hnone
        cases success with
        | true =>
            have hsame : c.step (.writeDone true) =
                ({ c with writing := others, lastWritten := frame.number }.note
                  (.written frame)).post (.writeEnd .none) := by
              simp [step, hwriting]
            rw [hsame]
            exact ⟨rfl, rfl, rfl, rfl, rfl, settles_concat (by decide) c.posted,
              [.written frame], rfl, by simp [Outcome.isWire]⟩
        | false =>
            have hsame : c.step (.writeDone false) =
                { c with writing := others }.post (.writeEnd .other) := by
              simp [step, hwriting]
            rw [hsame]
            exact ⟨rfl, rfl, rfl, rfl, rfl, settles_concat (by decide) c.posted, [], rfl,
              by simp⟩
  | readDone data =>
      change Between c (if c.reading then
        { c with reading := false }.post (.readEnd data c.lastWritten) else c)
      split
      · exact ⟨rfl, rfl, rfl, rfl, rfl, settles_concat (by simp [Handler.kind]) c.posted, [], rfl,
          by simp⟩
      · exact .refl c
  | readFailed =>
      change Between c (if c.reading then { c with reading := false }.post .readFailed else c)
      split
      · exact ⟨rfl, rfl, rfl, rfl, rfl, settles_concat (by decide) c.posted, [], rfl, by simp⟩
      · exact .refl c
  | send request => exact between_send c request
  | stopRead | clock _ | elapse _ => exact ⟨rfl, rfl, rfl, rfl, rfl, rfl, [], rfl, by simp⟩

/-- A step runs an event, or leaves the command as it is. -/
theorem Orderly.step_cases (horderly : Orderly c) (input : Input) :
    (∃ event rest, input = .run ∧ c.posted = .event event :: rest ∧
      Turn c rest event (c.step input)) ∨ Between c (c.step input) := by
  by_cases hevent : input = .run ∧ ∃ event, c.posted.head? = some (.event event)
  · obtain ⟨rfl, event, hhead⟩ := hevent
    obtain ⟨rest, hposted⟩ := List.head?_eq_some_iff.mp hhead
    have hsame : c.step .run = (c.taken rest).runEvent event := by
      simp [Client.step, hposted, Client.taken, Client.runHandler]
    exact .inl ⟨event, rest, rfl, hposted, hsame ▸ horderly.turn hposted⟩
  · exact .inr (between_step fun hrun event hhead => hevent ⟨hrun, event, hhead⟩)

end Client

end LinuxPBS.Lcsc

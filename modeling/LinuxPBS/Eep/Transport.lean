import Mathlib
import LinuxPBS.Eep.Client

/-!
# The EEP client and its connection

Two state machines: `currentState` of the client, and `isConnected` and `connecting`
of its `AppTcpClient`.  The second only reports by handlers, and the first may have
left the state in which it listens to the report.  A connect that succeeds after the
connect timer finds the client in `IDLE`; from then on `connect()` does nothing, as
the socket is connected, and nothing is ever sent.  A write that fails after the send
timer is reported by `WRITE_TIMEOUT`, which only `WRITING_REQUEST` knows.

`Linked` says what is pending in every state: one token for the next connect attempt
while the client is in `IDLE`, a timer or a handler that moves it on in the states that
wait, a report of a connection that is not known yet or was lost.  All but these two
steps keep it (`Linked.step`), and where nothing is pending it is the agreement of the
two machines (`Linked.agrees`).
-/

namespace LinuxPBS.Eep

open Machine

/-! ## What a handler is for -/

/-- The timers that move the client on. -/
def State.timers : State → List Timer
  | .idle => [.reconnect]
  | .connecting => [.connect]
  | .connected => []
  | .writingRequest => [.send]
  | .waitingForResponse => [.ack, .response]

namespace Handler

/-- It makes an idle client connect. -/
def opens : Handler → Bool
  | .event .connect => true
  | .expired .reconnect => true
  | _ => false

/-- It neither makes the client connect nor closes the connection. -/
def isTame : Handler → Bool
  | .clientClose => false
  | handler => !handler.opens

/-- It makes the client leave a state, or arm a timer that does. -/
def moves (state : State) : Handler → Bool
  | .event raised => (stateTransitionTable state raised).isSome
  | .expired timer => state.timers.contains timer
  | .handleConnect _ => decide (state = .connecting)
  | .handleSend _ => decide (state = .writingRequest)
  | _ => false

/-- It reports a connection, or closes it. -/
def settles : Handler → Bool
  | .handleConnect success => success
  | .event .connectSuccess => true
  | .clientClose => true
  | _ => false

/-- Without a connection it makes the client reconnect. -/
def tellsLoss (state : State) (queue : List Command) : Handler → Bool
  | .event .reconnectRequest => true
  | .event .writeTimeout => true
  | .receiveFailed => true
  | .handleSend success => !success
  | .event .checkCommand => decide (state = .connected)
  | .event .writeCommand => decide (state = .connected)
  | .checkCommandQueue => decide (state = .connected) && !queue.isEmpty
  | _ => false

/-- In `CONNECTED` it looks at the queue. -/
def checksQueue : Handler → Bool
  | .checkCommandQueue => true
  | .event .checkCommand => true
  | .event .writeCommand => true
  | .event .reconnectRequest => true
  | _ => false

end Handler

namespace Client

/-- The states in which the client takes itself for connected. -/
def Online (state : State) : Prop :=
  state = .connected ∨ state = .writingRequest ∨ state = .waitingForResponse

instance (state : State) : Decidable (Online state) := inferInstanceAs (Decidable (_ ∨ _ ∨ _))

/-- When nothing is pending, the client and its connection agree, and while commands are queued
the client is in a state that a running timer ends. -/
def Agrees (c : Client) : Prop :=
  c.posted = [] →
    (c.isConnected → Online c.currentState) ∧
    (c.isConnected = false → c.armed .reconnect ∨ c.armed .connect ∨ c.connecting) ∧
    (c.commandQueue ≠ [] → ∃ timer ∈ c.currentState.timers, c.armed timer)

instance (c : Client) : Decidable c.Agrees := by
  unfold Agrees
  infer_instance

/-- Neither report comes too late: `CONNECT_SUCCESS` for a connection that lasts finds the
client not idle, and `WRITE_TIMEOUT` for one that is lost finds it neither in `CONNECTED` nor in
`WAITING_FOR_RESPONSE`, unless another handler will tell it as much. -/
def Timely (c : Client) (input : Input) : Prop :=
  match input, c.posted with
  | .run, .event .connectSuccess :: rest =>
      c.currentState = .idle → c.isConnected → ∃ handler ∈ rest, handler.settles
  | .run, .event .writeTimeout :: rest =>
      c.currentState = .connected ∨ c.currentState = .waitingForResponse →
        c.isConnected = false → ∃ handler ∈ rest, handler.tellsLoss c.currentState c.commandQueue
  | _, _ => True

instance (c : Client) (input : Input) : Decidable (Timely c input) := by
  unfold Timely
  generalize c.posted = posted
  cases input with
  | run =>
    rcases posted with _ | ⟨handler, rest⟩
    · infer_instance
    · cases handler with
      | event event => cases event <;> infer_instance
      | _ => infer_instance
  | _ => infer_instance

/-! ## The invariant -/

/-- The connect attempts to come: the reconnect timer, and what it has posted. -/
def tokens (c : Client) : ℕ :=
  c.posted.countP Handler.opens + if c.armed .reconnect then 1 else 0

/-- What is pending in the states of the two machines. -/
structure Linked (c : Client) : Prop where
  token : c.tokens = if c.currentState = .idle then 1 else 0
  closesFirst : c.posted.Pairwise fun first later => first.opens → later ≠ .clientClose
  closesIdle : .clientClose ∈ c.posted → c.currentState = .idle
  apart : c.connecting → c.isConnected = false
  alive : c.currentState = .connected ∨ (∃ timer ∈ c.currentState.timers, c.armed timer) ∨
    ∃ handler ∈ c.posted, handler.moves c.currentState
  settled : c.isConnected → ¬Online c.currentState → ∃ handler ∈ c.posted, handler.settles
  lost : c.isConnected = false → Online c.currentState →
    ∃ handler ∈ c.posted, handler.tellsLoss c.currentState c.commandQueue
  checked : c.currentState = .connected → c.commandQueue ≠ [] →
    ∃ handler ∈ c.posted, handler.checksQueue

variable {c d : Client}

/-- Where nothing is pending the two machines agree. -/
theorem Linked.agrees (hlinked : Linked c) : c.Agrees := by
  intro hnothing
  have halive : c.currentState = .connected ∨ ∃ timer ∈ c.currentState.timers, c.armed timer := by
    rcases hlinked.alive with hconnected | htimer | hhandler
    · exact .inl hconnected
    · exact .inr htimer
    · simp [hnothing] at hhandler
  refine ⟨fun hconnected => ?_, fun hlost => ?_, fun hqueue => ?_⟩
  · by_contra hoffline
    have hsettled := hlinked.settled hconnected hoffline
    simp [hnothing] at hsettled
  · have hoffline : ¬Online c.currentState := by
      intro honline
      have hpending := hlinked.lost hlost honline
      simp [hnothing] at hpending
    rcases halive with hconnected | ⟨timer, htimer, harmed⟩
    · exact absurd (.inl hconnected) hoffline
    · cases hstate : c.currentState with
      | idle =>
          rw [hstate, State.timers, List.mem_singleton] at htimer
          exact .inl (htimer ▸ harmed)
      | connecting =>
          rw [hstate, State.timers, List.mem_singleton] at htimer
          exact .inr (.inl (htimer ▸ harmed))
      | _ => simp [hstate, Online] at hoffline
  · rcases halive with hconnected | htimer
    · have hchecked := hlinked.checked hconnected hqueue
      simp [hnothing] at hchecked
    · exact htimer

/-! ## What most functions leave alone -/

/-- Nothing happens but tame handlers at the end of the queue and timers that are started. -/
def Adds (c d : Client) : Prop :=
  d.currentState = c.currentState ∧ d.isConnected = c.isConnected ∧
    d.connecting = c.connecting ∧ d.commandQueue = c.commandQueue ∧
    d.armed .reconnect = c.armed .reconnect ∧ (∀ timer, c.armed timer → d.armed timer) ∧
    ∃ more, d.posted = c.posted ++ more ∧ ∀ handler ∈ more, handler.isTame

theorem Adds.refl (c : Client) : Adds c c :=
  ⟨rfl, rfl, rfl, rfl, rfl, fun _ => id, [], (List.append_nil _).symm, by simp⟩

theorem Adds.post (hadds : Adds c d) {handler : Handler} (htame : handler.isTame) :
    Adds c (d.post handler) := by
  obtain ⟨hstate, hconnected, hconnecting, hqueue, hreconnect, harmed, more, hposted, hmore⟩ := hadds
  refine ⟨hstate, hconnected, hconnecting, hqueue, hreconnect, harmed, more ++ [handler], ?_, ?_⟩
  · show d.posted ++ [handler] = _
    rw [hposted, List.append_assoc]
  · intro other hother
    rcases List.mem_append.mp hother with hmem | hmem
    · exact hmore other hmem
    · rwa [List.mem_singleton.mp hmem]

/-- What is queued stays queued. -/
theorem Adds.mem (hadds : Adds c d) {handler : Handler} (hmem : handler ∈ c.posted) :
    handler ∈ d.posted := by
  obtain ⟨-, -, -, -, -, -, more, hposted, -⟩ := hadds
  rw [hposted]
  exact List.mem_append_left _ hmem

theorem Adds.enqueueCommand (hadds : Adds c d) (type : CommandType) (priority : ℕ)
    (data : Option CommandData) : Adds c (d.enqueueCommand type priority data) :=
  hadds.post rfl

theorem Adds.start (hadds : Adds c d) {timer : Timer} (htimer : timer ≠ .reconnect) :
    Adds c (d.start timer) := by
  obtain ⟨hstate, hconnected, hconnecting, hqueue, hreconnect, harmed, hmore⟩ := hadds
  refine ⟨hstate, hconnected, hconnecting, hqueue, ?_, fun other hother => ?_, hmore⟩
  · rw [← hreconnect]
    exact Function.update_of_ne htimer.symm _ _
  · show Function.update d.armed timer true other = true
    by_cases hsame : other = timer
    · rw [hsame, Function.update_self]
    · rw [Function.update_of_ne hsame]
      exact harmed other hother

/-- A timer that is restarted. -/
theorem Adds.restart (hadds : Adds c d) {timer : Timer} (htimer : timer ≠ .reconnect)
    (handler : Handler) (htame : handler.isTame) :
    Adds c (((d.cancel timer).post handler).start timer) := by
  have hsame : ((d.cancel timer).post handler).start timer = (d.post handler).start timer := by
    simp [Client.start, Client.cancel, Client.post, Function.update_idem]
  rw [hsame]
  exact (hadds.post htame).start htimer

theorem Adds.startWatchdogTimer (hadds : Adds c d) : Adds c d.startWatchdogTimer :=
  hadds.restart (by decide) _ rfl

theorem Adds.startHealthStatusTimer (hadds : Adds c d) : Adds c d.startHealthStatusTimer :=
  hadds.restart (by decide) _ rfl

theorem Adds.notifyConnectionState (hadds : Adds c d) (connected : Bool) :
    Adds c (d.notifyConnectionState connected) := by
  unfold Client.notifyConnectionState
  split_ifs
  · exact hadds
  · exact hadds

theorem Adds.handleCommandErrorOrTimeout (hadds : Adds c d) (cmd : Command) (status : MsgStatus) :
    Adds c (d.handleCommandErrorOrTimeout cmd status) := by
  unfold Client.handleCommandErrorOrTimeout
  split_ifs
  · exact Adds.post hadds rfl
  · exact hadds
  · exact hadds
  · exact hadds

theorem Adds.checkCommandQueue (hadds : Adds c d) : Adds c d.checkCommandQueue := by
  unfold Client.checkCommandQueue
  split_ifs
  · exact hadds
  · exact hadds.post rfl
  · exact hadds

theorem Adds.sendAck (hadds : Adds c d) (seqNo : UInt16) (code : UInt8) :
    Adds c (d.sendAck seqNo code) :=
  Adds.enqueueCommand hadds _ _ _

theorem Adds.sendNak (hadds : Adds c d) (seqNo : UInt16) (code reasonCode : UInt8) :
    Adds c (d.sendNak seqNo code reasonCode) :=
  Adds.enqueueCommand hadds _ _ _

theorem Adds.write (hadds : Adds c d) (cmd : Command) : Adds c (d.write cmd) := by
  unfold Client.write
  split
  extract_lets expecting
  have hexpecting : Adds c expecting := by
    simp only [expecting]
    split_ifs
    · exact hadds
    · exact hadds
  split_ifs
  · exact hexpecting.post rfl
  · exact hexpecting.post rfl

theorem Adds.clientSend (hadds : Adds c d) (message : List UInt8) : Adds c (d.clientSend message) := by
  unfold Client.clientSend
  split_ifs
  · exact hadds.post rfl
  · exact hadds

/-- Dropping the queue, one command after the other. -/
theorem Adds.failAll (hadds : Adds c d) (cmds : List Command) :
    Adds c (cmds.foldl (fun c cmd => c.handleCommandErrorOrTimeout cmd .sendFailed) d) := by
  induction cmds generalizing d with
  | nil => exact hadds
  | cons cmd rest ih => exact ih (hadds.handleCommandErrorOrTimeout cmd _)

theorem Adds.clearCommandQueue (c : Client) :
    Adds { c with commandQueue := [] } c.clearCommandQueue :=
  (Adds.refl _).failAll _

/-- What the end of a reconnect leaves behind. -/
theorem Adds.dropConnection (hadds : Adds c d) :
    d.dropConnection.isConnected = c.isConnected ∧ d.dropConnection.connecting = c.connecting ∧
      d.dropConnection.armed .reconnect = true ∧
      ∃ more, d.dropConnection.posted = c.posted ++ more ++ [.clientClose] ∧
        ∀ handler ∈ more, handler.isTame := by
  obtain ⟨-, hconnected, hconnecting, -, -, -, first, hfirst, htame⟩ := hadds
  obtain ⟨-, hconnected', hconnecting', -, -, -, more, hposted, hmore⟩ :=
    (Adds.clearCommandQueue d).notifyConnectionState false
  refine ⟨hconnected'.trans hconnected, hconnecting'.trans hconnecting, ?_, first ++ more, ?_, ?_⟩
  · simp [Client.dropConnection, Client.start]
  · show (d.clearCommandQueue.notifyConnectionState false).posted ++ [Handler.clientClose] = _
    rw [hposted, ← List.append_assoc, ← hfirst]
  · intro handler hhandler
    rcases List.mem_append.mp hhandler with hmem | hmem
    · exact htame handler hmem
    · exact hmore handler hmem

/-- The client with all timers stopped but the one for the reconnect. -/
def stopped (c : Client) : Client :=
  { ((((((c.cancel .connect).cancel .send).cancel .ack).cancel .response).cancel
      .watchdog).cancel .healthStatus) with expectedResponseSeqNo := none }

theorem beginReconnect_eq (c : Client) (failActiveRequest : Bool) :
    c.beginReconnect failActiveRequest =
      if failActiveRequest && !c.stopped.currentCmdRequested.type.isControl then
        (c.stopped.handleCommandErrorOrTimeout c.stopped.currentCmdRequested
          .sendFailed).dropConnection
      else c.stopped.dropConnection :=
  rfl

/-- What a reconnect leaves behind. -/
theorem beginReconnect_spec (c : Client) (failActiveRequest : Bool) :
    (c.beginReconnect failActiveRequest).isConnected = c.isConnected ∧
      (c.beginReconnect failActiveRequest).connecting = c.connecting ∧
      (c.beginReconnect failActiveRequest).armed .reconnect = true ∧
      ∃ more, (c.beginReconnect failActiveRequest).posted = c.posted ++ more ++ [.clientClose] ∧
        ∀ handler ∈ more, handler.isTame := by
  have hspec : ∃ d, Adds c.stopped d ∧ c.beginReconnect failActiveRequest = d.dropConnection := by
    rw [beginReconnect_eq]
    split_ifs
    · exact ⟨_, (Adds.refl _).handleCommandErrorOrTimeout _ _, rfl⟩
    · exact ⟨_, Adds.refl _, rfl⟩
  obtain ⟨d, hadds, hsame⟩ := hspec
  obtain ⟨hconnected, hconnecting, hreconnect, more, hposted, hmore⟩ := hadds.dropConnection
  rw [hsame]
  refine ⟨hconnected.trans ?_, hconnecting.trans ?_, hreconnect, more, hposted.trans ?_, hmore⟩
  · simp only [stopped, cancel]
  · simp only [stopped, cancel]
  · simp only [stopped, cancel]

/-! ## Steps that stay in a state -/

theorem tame_iff (handler : Handler) :
    handler.isTame ↔ handler.opens = false ∧ handler ≠ .clientClose := by
  cases handler with
  | clientClose => simp [Handler.isTame]
  | _ => simp [Handler.isTame]

theorem countP_opens_of_tame {handlers : List Handler}
    (htame : ∀ handler ∈ handlers, handler.isTame) : handlers.countP Handler.opens = 0 := by
  rw [List.countP_eq_zero]
  intro handler hhandler
  simp [((tame_iff handler).mp (htame handler hhandler)).1]

/-- Away from `IDLE` there is no connect attempt to come and nothing is being closed. -/
theorem Linked.tame (hlinked : Linked c) (hstate : c.currentState ≠ .idle) :
    c.armed .reconnect = false ∧ ∀ handler ∈ c.posted, handler.isTame := by
  have htoken := hlinked.token
  rw [if_neg hstate, tokens, Nat.add_eq_zero_iff, List.countP_eq_zero] at htoken
  obtain ⟨hposted, hreconnect⟩ := htoken
  refine ⟨by simpa using hreconnect, fun handler hhandler => (tame_iff handler).mpr ⟨?_, ?_⟩⟩
  · simpa using hposted handler hhandler
  · rintro rfl
    exact hstate (hlinked.closesIdle hhandler)

/-- With a queue that grows, no more handlers are needed. -/
theorem tellsLoss_mono {state : State} {queue grown : List Command} {handler : Handler}
    (hqueue : queue ≠ [] → grown ≠ []) (htells : handler.tellsLoss state queue) :
    handler.tellsLoss state grown := by
  cases handler with
  | checkCommandQueue =>
      simp only [Handler.tellsLoss, Bool.and_eq_true, Bool.not_eq_true', List.isEmpty_eq_false_iff]
        at htells ⊢
      exact ⟨htells.1, hqueue htells.2⟩
  | event event => cases event <;> exact htells
  | _ => exact htells

/-- A step in one state: some handlers are taken from the queue and others come to its end, and
what those were for is still pending. -/
theorem Linked.pass {dropped rest more : List Handler} (hlinked : Linked c)
    (hposted : c.posted = dropped ++ rest) (hafter : d.posted = rest ++ more)
    (hdropped : ∀ handler ∈ dropped, handler.opens = false)
    (hmore : ∀ handler ∈ more, handler.isTame)
    (hstate : d.currentState = c.currentState) (hconnected : d.isConnected = c.isConnected)
    (hreconnect : d.armed .reconnect = c.armed .reconnect)
    (hapart : d.connecting → d.isConnected = false)
    (hqueue : c.commandQueue ≠ [] → d.commandQueue ≠ [])
    (htimer : ∀ timer ∈ c.currentState.timers, c.armed timer →
      d.armed timer ∨ ∃ handler ∈ d.posted, handler.moves c.currentState)
    (hmoves : ∀ handler ∈ dropped, handler.moves c.currentState →
      ∃ other ∈ d.posted, other.moves c.currentState)
    (hsettles : ∀ handler ∈ dropped, handler.settles → c.isConnected → ¬Online c.currentState →
      ∃ other ∈ d.posted, other.settles)
    (hloss : ∀ handler ∈ dropped, handler.tellsLoss c.currentState d.commandQueue →
      c.isConnected = false → Online c.currentState →
        ∃ other ∈ d.posted, other.tellsLoss c.currentState d.commandQueue)
    (hchecks : c.currentState = .connected → d.commandQueue ≠ [] →
      (c.commandQueue ≠ [] ∧ ∀ handler ∈ dropped, handler.checksQueue = false) ∨
        ∃ other ∈ d.posted, other.checksQueue) :
    Linked d := by
  -- what is pending is still in the queue, or was taken from it
  have hpending (kind : Handler → Bool) (htaken : ∀ handler ∈ dropped, kind handler →
      ∃ other ∈ d.posted, kind other) (hbefore : ∃ handler ∈ c.posted, kind handler) :
      ∃ other ∈ d.posted, kind other := by
    obtain ⟨handler, hhandler, hkind⟩ := hbefore
    rw [hposted] at hhandler
    rcases List.mem_append.mp hhandler with hmem | hmem
    · exact htaken handler hmem hkind
    · exact ⟨handler, hafter ▸ List.mem_append_left _ hmem, hkind⟩
  have hpairs := hlinked.closesFirst
  rw [hposted, List.pairwise_append] at hpairs
  refine ⟨?_, ?_, ?_, hapart, ?_, ?_, ?_, ?_⟩
  · have htoken := hlinked.token
    have hnone : dropped.countP Handler.opens = 0 :=
      List.countP_eq_zero.mpr fun handler hmem => by simp [hdropped handler hmem]
    rw [tokens, hposted, List.countP_append, hnone, Nat.zero_add] at htoken
    rw [tokens, hafter, List.countP_append, countP_opens_of_tame hmore, hreconnect, hstate]
    exact htoken
  · rw [hafter, List.pairwise_append]
    refine ⟨hpairs.2.1, ?_, ?_⟩
    · exact List.pairwise_of_forall_mem_list fun _ _ later hlater _ =>
        ((tame_iff later).mp (hmore later hlater)).2
    · exact fun _ _ later hlater _ => ((tame_iff later).mp (hmore later hlater)).2
  · intro hclose
    rw [hafter] at hclose
    rcases List.mem_append.mp hclose with hmem | hmem
    · rw [hstate]
      exact hlinked.closesIdle (hposted ▸ List.mem_append_right _ hmem)
    · exact absurd rfl ((tame_iff _).mp (hmore _ hmem)).2
  · rw [hstate]
    rcases hlinked.alive with hidle | ⟨timer, hmem, harmed⟩ | hbefore
    · exact .inl hidle
    · rcases htimer timer hmem harmed with hstill | hhandler
      · exact .inr (.inl ⟨timer, hmem, hstill⟩)
      · exact .inr (.inr hhandler)
    · exact .inr (.inr (hpending (Handler.moves c.currentState) hmoves hbefore))
  · rw [hstate, hconnected]
    intro hup hoffline
    exact hpending Handler.settles (fun handler hmem hkind => hsettles handler hmem hkind hup hoffline)
      (hlinked.settled hup hoffline)
  · rw [hstate, hconnected]
    intro hdown honline
    obtain ⟨handler, hmem, htells⟩ := hlinked.lost hdown honline
    exact hpending (Handler.tellsLoss c.currentState d.commandQueue)
      (fun handler hmem hkind => hloss handler hmem hkind hdown honline)
      ⟨handler, hmem, tellsLoss_mono hqueue htells⟩
  · rw [hstate]
    intro hidle hqueued
    rcases hchecks hidle hqueued with ⟨hbefore, hnone⟩ | hchecked
    · refine hpending Handler.checksQueue (fun handler hmem hkind => ?_) (hlinked.checked hidle hbefore)
      rw [hnone handler hmem] at hkind
      cases hkind
    · exact hchecked

/-- More handlers and timers. -/
theorem Linked.adds (hlinked : Linked c) (hadds : Adds c d) : Linked d := by
  obtain ⟨hstate, hconnected, hconnecting, hqueue, hreconnect, harmed, more, hposted, hmore⟩ := hadds
  refine hlinked.pass (List.nil_append _).symm hposted (by simp) hmore hstate hconnected hreconnect
    ?_ ?_ (fun timer _ hbefore => .inl (harmed timer hbefore)) (by simp) (by simp) (by simp) ?_
  · rw [hconnected, hconnecting]
    exact hlinked.apart
  · rw [hqueue]
    exact id
  · rw [hqueue]
    exact fun _ hqueued => .inl ⟨hqueued, by simp⟩

/-- A handler whose purposes are passed on. -/
theorem Linked.take {handler : Handler} {rest : List Handler} (hlinked : Linked c)
    (hposted : c.posted = handler :: rest) (hopens : handler.opens = false)
    (hadds : Adds { c with posted := rest } d)
    (hmoves : handler.moves c.currentState → ∃ other ∈ d.posted, other.moves c.currentState)
    (hsettles : handler.settles → c.isConnected → ¬Online c.currentState →
      ∃ other ∈ d.posted, other.settles)
    (hloss : handler.tellsLoss c.currentState c.commandQueue → c.isConnected = false →
      Online c.currentState → ∃ other ∈ d.posted, other.tellsLoss c.currentState c.commandQueue)
    (hchecks : handler.checksQueue → c.currentState = .connected → c.commandQueue ≠ [] →
      ∃ other ∈ d.posted, other.checksQueue) : Linked d := by
  obtain ⟨hstate, hconnected, hconnecting, hqueue, hreconnect, harmed, more, hafter, hmore⟩ := hadds
  have hqueue : d.commandQueue = c.commandQueue := hqueue
  have htaken : c.posted = [handler] ++ rest := hposted
  refine hlinked.pass htaken hafter (by simpa using hopens) hmore hstate
    hconnected hreconnect ?_ ?_ (fun timer _ hbefore => .inl (harmed timer hbefore)) ?_ ?_ ?_ ?_
  · rw [hconnected, hconnecting]
    exact hlinked.apart
  · rw [hqueue]
    exact id
  · simpa using hmoves
  · simpa using hsettles
  · rw [hqueue]
    simpa using hloss
  · rw [hqueue]
    intro hidle hqueued
    by_cases hhandler : handler.checksQueue
    · exact .inr (hchecks hhandler hidle hqueued)
    · exact .inl ⟨hqueued, by simpa using hhandler⟩

/-- The connection is made, and a report is pending. -/
theorem Linked.connect (hlinked : Linked c) (hconnecting : c.connecting = false)
    (hreport : ∃ handler ∈ c.posted, handler.settles) : Linked { c with isConnected := true } := by
  obtain ⟨htoken, hfirst, hidle, -, halive, -, -, hchecked⟩ := hlinked
  refine ⟨htoken, hfirst, hidle, ?_, halive, fun _ _ => hreport, fun hdown => ?_, hchecked⟩
  · intro hattempt
    rw [hconnecting] at hattempt
    cases hattempt
  · cases hdown

/-- The connection is lost, and a report is pending. -/
theorem Linked.clientClose (hlinked : Linked c) (hreport : Online c.currentState →
    ∃ handler ∈ c.posted, handler.tellsLoss c.currentState c.commandQueue) :
    Linked c.clientClose := by
  obtain ⟨htoken, hfirst, hidle, -, halive, -, -, hchecked⟩ := hlinked
  refine ⟨htoken, hfirst, hidle, fun _ => rfl, halive, fun hup => ?_, fun _ => hreport, hchecked⟩
  cases hup

/-- A connect attempt; there is none while the client is connected. -/
theorem Linked.clientConnect (hlinked : Linked c) : Linked c.clientConnect := by
  unfold Client.clientConnect
  split_ifs with hbusy
  · exact hlinked
  · rw [Bool.or_eq_true, not_or, Bool.not_eq_true, Bool.not_eq_true] at hbusy
    obtain ⟨htoken, hfirst, hidle, -, halive, -, hlost, hchecked⟩ := hlinked
    refine ⟨htoken, hfirst, hidle, fun _ => rfl, halive, fun hup => ?_, fun _ => hlost hbusy.1,
      hchecked⟩
    cases hup

/-! ## One handler -/

theorem mem_processEvent (c : Client) (event : Event) :
    .event event ∈ (c.processEvent event).posted :=
  List.mem_append_right _ List.mem_cons_self

/-- A queue that is not empty is looked at by `WRITE_COMMAND`. -/
theorem mem_checkCommandQueue (hstate : c.currentState = .connected) (hqueue : c.commandQueue ≠ []) :
    .event .writeCommand ∈ c.checkCommandQueue.posted := by
  unfold Client.checkCommandQueue
  rw [if_neg (not_not.mpr hstate), if_pos hqueue]
  exact mem_processEvent _ _

theorem Linked.checkCommandQueue {rest : List Handler} (hlinked : Linked c)
    (hposted : c.posted = .checkCommandQueue :: rest) :
    Linked ({ c with posted := rest }.checkCommandQueue) := by
  refine hlinked.take hposted rfl ((Adds.refl _).checkCommandQueue) (fun h => by cases h)
    (fun h => by cases h) (fun hloss _ _ => ?_) (fun _ hstate hqueue => ?_)
  · simp only [Handler.tellsLoss, Bool.and_eq_true, decide_eq_true_eq, Bool.not_eq_true',
      List.isEmpty_eq_false_iff] at hloss
    have hwrites : .event .writeCommand ∈ ({ c with posted := rest }.checkCommandQueue).posted :=
      mem_checkCommandQueue hloss.1 hloss.2
    exact ⟨_, hwrites, by simp [Handler.tellsLoss, hloss.1]⟩
  · have hwrites : .event .writeCommand ∈ ({ c with posted := rest }.checkCommandQueue).posted :=
      mem_checkCommandQueue hstate hqueue
    exact ⟨_, hwrites, rfl⟩

theorem push_ne_nil (cmd : Command) (queue : List Command) : push cmd queue ≠ [] := by
  cases queue with
  | nil => simp [push]
  | cons first rest =>
      unfold push
      split_ifs
      · simp
      · simp

theorem Linked.runEnqueueCommand (hlinked : Linked c) (type : CommandType) (priority : ℕ)
    (data : Option CommandData) : Linked (c.runEnqueueCommand type priority data) := by
  unfold Client.runEnqueueCommand
  extract_lets command counted
  have hcounted : Linked counted := hlinked.adds (Adds.refl c)
  split_ifs with hdown
  · exact hcounted.adds ((Adds.refl _).handleCommandErrorOrTimeout _ _)
  · have hpushed := push_ne_nil command counted.commandQueue
    obtain ⟨hstate, hconnected, hconnecting, hqueue, hreconnect, harmed, more, hafter, hmore⟩ :=
      (Adds.refl { counted with commandQueue := push command counted.commandQueue }).checkCommandQueue
    have hsome : ({ counted with commandQueue := push command counted.commandQueue
        }.checkCommandQueue).commandQueue ≠ [] := by
      rw [hqueue]
      exact hpushed
    refine hcounted.pass (List.nil_append _).symm hafter (by simp) hmore hstate hconnected
      hreconnect ?_ (fun _ => hsome) (fun timer _ hbefore => .inl (harmed timer hbefore)) (by simp)
      (by simp) (by simp) (fun hidle _ => .inr ?_)
    · rw [hconnected, hconnecting]
      exact hcounted.apart
    · exact ⟨_, mem_checkCommandQueue hidle hpushed, rfl⟩

theorem cancel_armed {timer other : Timer} (hne : other ≠ timer) :
    (c.cancel timer).armed other = c.armed other :=
  Function.update_of_ne hne _ _

/-- A completion stops a timer and raises an event that does what the timer would have done. -/
theorem Linked.complete {handler : Handler} {rest : List Handler} (hlinked : Linked c)
    (hposted : c.posted = handler :: rest) (hopens : handler.opens = false) {timer : Timer}
    {event : Event} (hreconnect : timer ≠ .reconnect)
    (hadds : Adds ({ c with posted := rest }.cancel timer) d) (hmem : .event event ∈ d.posted)
    (htimer : timer ∈ c.currentState.timers → Handler.moves c.currentState (.event event))
    (hmoves : handler.moves c.currentState → Handler.moves c.currentState (.event event))
    (hsettles : handler.settles → Handler.settles (.event event))
    (hloss : handler.tellsLoss c.currentState c.commandQueue →
      Handler.tellsLoss c.currentState c.commandQueue (.event event))
    (hchecks : handler.checksQueue = false) : Linked d := by
  obtain ⟨hstate, hconnected, hconnecting, hqueue, harmed', harmed, more, hafter, hmore⟩ := hadds
  have htaken : c.posted = [handler] ++ rest := hposted
  have hqueue : d.commandQueue = c.commandQueue := hqueue
  refine hlinked.pass htaken hafter (by simpa using hopens) hmore hstate hconnected
    (harmed'.trans (cancel_armed hreconnect.symm)) ?_ ?_ ?_ ?_ ?_ ?_ ?_
  · rw [hconnected, hconnecting]
    exact hlinked.apart
  · rw [hqueue]
    exact id
  · intro other hother hbefore
    by_cases hsame : other = timer
    · exact .inr ⟨_, hmem, htimer (hsame ▸ hother)⟩
    · exact .inl (harmed other ((cancel_armed hsame).trans hbefore))
  · simpa using fun hhandler => ⟨_, hmem, hmoves hhandler⟩
  · simpa using fun hhandler _ _ => ⟨_, hmem, hsettles hhandler⟩
  · rw [hqueue]
    simpa using fun hhandler _ _ => ⟨_, hmem, hloss hhandler⟩
  · rw [hqueue]
    exact fun _ hqueued => .inl ⟨hqueued, by simpa using hchecks⟩

theorem Adds.handleParsedResponseMessage (hadds : Adds c d) (header : MessageHeader)
    (body : List UInt8) : Adds c (d.handleParsedResponseMessage header body) := by
  unfold Client.handleParsedResponseMessage
  split_ifs
  · exact hadds
  · exact hadds
  · exact hadds

theorem Adds.handleInvalidMessage (hadds : Adds c d) (data : List UInt8) (reasonCode : UInt8) :
    Adds c (d.handleInvalidMessage data reasonCode) := by
  unfold Client.handleInvalidMessage
  split_ifs
  · exact hadds.sendNak _ _ _
  · exact hadds

/-- A timer is stopped, and an event that moves the client on takes its place. -/
def Answers (c d : Client) : Prop :=
  ∃ timer event, (timer = .ack ∨ timer = .response) ∧ Adds (c.cancel timer) d ∧
    .event event ∈ d.posted ∧ Handler.moves .waitingForResponse (.event event)

theorem handleResponse_answers (c : Client) (header : MessageHeader) (body : List UInt8) :
    Adds c (c.handleResponse header body) ∨ Answers c (c.handleResponse header body) := by
  unfold handleResponse
  split_ifs with hexpected
  · exact .inl (Adds.refl c)
  · extract_lets parsed unexpecting
    have hunexpecting : Adds (c.cancel .ack) unexpecting :=
      (Adds.refl _).handleParsedResponseMessage header body
    split_ifs
    · exact .inr ⟨.ack, .ackTimerCancelledAckReceived, .inl rfl, Adds.post hunexpecting rfl,
        mem_processEvent _ _, rfl⟩
    · exact .inr ⟨.ack, .ackAsRspReceived, .inl rfl, Adds.post hunexpecting rfl,
        mem_processEvent _ _, rfl⟩

theorem handleNotification_answers (c : Client) (header : MessageHeader) :
    Adds c (c.handleNotification header) ∨ Answers c (c.handleNotification header) := by
  unfold handleNotification
  split_ifs
  · have hevent : Adds (c.cancel .response) (((c.note (.completed c.currentCmdRequested)).cancel
        .response).processEvent .responseTimerCancelledRspReceived) :=
      (Adds.refl _).post rfl
    refine .inr ⟨.response, .responseTimerCancelledRspReceived, .inr rfl, hevent.sendAck _ _, ?_, rfl⟩
    exact List.mem_append_left _ (mem_processEvent _ _)
  · exact .inl ((Adds.refl c).sendAck _ _)

/-- What a message does. -/
theorem handleReceivedData_answers (c : Client) (data : List UInt8) :
    Adds c (c.handleReceivedData data) ∨ Answers c (c.handleReceivedData data) := by
  unfold handleReceivedData
  cases receivedMessage c.config data with
  | inr reasonCode => exact .inl ((Adds.refl c).handleInvalidMessage data reasonCode)
  | inl message =>
      obtain ⟨header, body⟩ := message
      have hhandled : Adds c (c.note (.handled header body)) := Adds.refl c
      dsimp only
      split
      · exact handleResponse_answers (c.note (.handled header body)) header body
      · split
        · exact handleNotification_answers (c.note (.handled header body)) header
        · exact .inl (hhandled.handleInvalidMessage data _)

theorem Linked.received {rest : List Handler} (hlinked : Linked c) {data : List UInt8}
    (hposted : c.posted = .received data :: rest) :
    Linked ({ c with posted := rest }.handleReceivedData data) := by
  rcases handleReceivedData_answers { c with posted := rest } data with hadds | hanswers
  · exact hlinked.take hposted rfl hadds (fun h => by cases h) (fun h => by cases h)
      (fun h => by cases h) (fun h => by cases h)
  · obtain ⟨timer, event, htimer, hadds, hmem, hmoves⟩ := hanswers
    have hwaiting (hrunning : timer ∈ c.currentState.timers) :
        c.currentState = .waitingForResponse := by
      cases hstate : c.currentState with
      | waitingForResponse => rfl
      | _ => rcases htimer with rfl | rfl <;> simp [hstate, State.timers] at hrunning
    refine hlinked.complete hposted rfl ?_ hadds hmem (fun hrunning => ?_) (fun h => by cases h)
      (fun h => by cases h) (fun h => by cases h) rfl
    · rcases htimer with rfl | rfl
      · decide
      · decide
    · rw [hwaiting hrunning]
      exact hmoves

/-! ## Connect attempts -/

/-- In `IDLE`, with one connect attempt to come. -/
theorem linked_of_idle (hstate : c.currentState = .idle) (htoken : c.tokens = 1)
    (hfirst : c.posted.Pairwise fun first later => first.opens → later ≠ .clientClose)
    (hapart : c.connecting → c.isConnected = false)
    (hsettled : c.isConnected → ∃ handler ∈ c.posted, handler.settles) : Linked c := by
  have hoffline : ¬Online c.currentState := by
    rw [hstate]
    decide
  refine ⟨by rw [htoken, if_pos hstate], hfirst, fun _ => hstate, hapart, .inr ?_,
    fun hup _ => hsettled hup, fun _ honline => absurd honline hoffline, fun hidle => ?_⟩
  · rw [hstate]
    by_cases hreconnect : c.armed .reconnect
    · exact .inl ⟨_, List.mem_cons_self, hreconnect⟩
    · rw [tokens, if_neg hreconnect] at htoken
      have hpositive : 0 < c.posted.countP Handler.opens := by omega
      obtain ⟨handler, hmem, hopens⟩ := List.countP_pos_iff.mp hpositive
      refine .inr ⟨handler, hmem, ?_⟩
      unfold Handler.opens at hopens
      split at hopens
      · rfl
      · rfl
      · cases hopens
  · rw [hstate] at hidle
    cases hidle

/-- Away from `IDLE`, with no connect attempt to come and nothing being closed. -/
theorem linked_of_busy (hstate : c.currentState ≠ .idle) (hreconnect : c.armed .reconnect = false)
    (htame : ∀ handler ∈ c.posted, handler.isTame) (hapart : c.connecting → c.isConnected = false)
    (halive : c.currentState = .connected ∨ (∃ timer ∈ c.currentState.timers, c.armed timer) ∨
      ∃ handler ∈ c.posted, handler.moves c.currentState)
    (hsettled : c.isConnected → ¬Online c.currentState → ∃ handler ∈ c.posted, handler.settles)
    (hlost : c.isConnected = false → Online c.currentState →
      ∃ handler ∈ c.posted, handler.tellsLoss c.currentState c.commandQueue)
    (hchecked : c.currentState = .connected → c.commandQueue ≠ [] →
      ∃ handler ∈ c.posted, handler.checksQueue) : Linked c := by
  refine ⟨?_, ?_, fun hclose => ?_, hapart, halive, hsettled, hlost, hchecked⟩
  · simp [tokens, countP_opens_of_tame htame, hreconnect, hstate]
  · exact List.pairwise_of_forall_mem_list fun _ _ later hlater _ =>
      ((tame_iff later).mp (htame later hlater)).2
  · exact absurd rfl ((tame_iff _).mp (htame _ hclose)).2

/-- A handler that makes the client connect finds it in `IDLE`, and is the only one. -/
theorem Linked.opening {handler : Handler} {rest : List Handler} (hlinked : Linked c)
    (hposted : c.posted = handler :: rest) (hopens : handler.opens) :
    c.currentState = .idle ∧ c.armed .reconnect = false ∧ ∀ other ∈ rest, other.isTame := by
  have hstate : c.currentState = .idle := by
    by_contra hbusy
    have htame := (hlinked.tame hbusy).2 handler (hposted ▸ List.mem_cons_self)
    rw [((tame_iff handler).mp htame).1] at hopens
    cases hopens
  have htoken := hlinked.token
  rw [tokens, hposted, List.countP_cons, if_pos hopens, if_pos hstate] at htoken
  have hnone : rest.countP Handler.opens = 0 := by omega
  have hpairs := hlinked.closesFirst
  rw [hposted, List.pairwise_cons] at hpairs
  refine ⟨hstate, ?_, fun other hother => (tame_iff other).mpr ⟨?_, hpairs.1 other hother hopens⟩⟩
  · by_contra hreconnect
    rw [Bool.not_eq_false] at hreconnect
    rw [if_pos hreconnect] at htoken
    omega
  · simpa using List.countP_eq_zero.mp hnone other hother

/-- What the other handlers in the queue report. -/
theorem pending_rest (kind : Handler → Bool) {handler : Handler} {rest : List Handler}
    (hposted : c.posted = handler :: rest) (hother : kind handler = false)
    (hpending : ∃ other ∈ c.posted, kind other) : ∃ other ∈ rest, kind other := by
  obtain ⟨other, hmem, hkind⟩ := hpending
  rw [hposted] at hmem
  rcases List.mem_cons.mp hmem with rfl | hrest
  · rw [hother] at hkind
    cases hkind
  · exact ⟨other, hrest, hkind⟩

/-- The reconnect timer has expired. -/
theorem Linked.expireReconnect (hlinked : Linked c) (harmed : c.armed .reconnect) :
    Linked ((c.cancel .reconnect).post (.expired .reconnect)) := by
  have hstate : c.currentState = .idle := by
    by_contra hbusy
    rw [(hlinked.tame hbusy).1] at harmed
    cases harmed
  have htoken := hlinked.token
  rw [tokens, if_pos harmed, if_pos hstate] at htoken
  refine linked_of_idle hstate ?_ ?_ hlinked.apart (fun hup => ?_)
  · have hoff : ((c.cancel .reconnect).post (.expired .reconnect)).armed .reconnect = false := by
      simp [cancel, post]
    have hone : (c.posted ++ [Handler.expired .reconnect]).countP Handler.opens = 1 := by
      rw [List.countP_append]
      have hlast : [Handler.expired .reconnect].countP Handler.opens = 1 := rfl
      omega
    simp only [tokens, hoff]
    exact hone
  · refine List.pairwise_append.mpr ⟨hlinked.closesFirst, by simp, ?_⟩
    simp
  · have hoffline : ¬Online c.currentState := by
      rw [hstate]
      decide
    obtain ⟨handler, hmem, hsettles⟩ := hlinked.settled hup hoffline
    exact ⟨handler, List.mem_append_left _ hmem, hsettles⟩

/-- Its handler raises `CONNECT`. -/
theorem Linked.runExpiredReconnect {rest : List Handler} (hlinked : Linked c)
    (hposted : c.posted = .expired .reconnect :: rest) :
    Linked ({ c with posted := rest }.processEvent .connect) := by
  obtain ⟨hstate, hreconnect, htame⟩ := hlinked.opening hposted rfl
  have hoffline : ¬Online c.currentState := by
    rw [hstate]
    decide
  refine linked_of_idle hstate ?_ ?_ hlinked.apart (fun hup => ?_)
  · have hone : (rest ++ [Handler.event .connect]).countP Handler.opens = 1 := by
      rw [List.countP_append, countP_opens_of_tame htame]
      rfl
    have hsame : ({ c with posted := rest }.processEvent .connect).armed .reconnect = false :=
      hreconnect
    simp only [tokens, hsame]
    exact hone
  · refine List.pairwise_append.mpr ⟨?_, by simp, by simp⟩
    exact List.pairwise_of_forall_mem_list fun _ _ later hlater _ =>
      ((tame_iff later).mp (htame later hlater)).2
  · obtain ⟨handler, hmem, hsettles⟩ :=
      pending_rest Handler.settles hposted rfl (hlinked.settled hup hoffline)
    exact ⟨handler, List.mem_append_left _ hmem, hsettles⟩

/-! ## One event -/

/-- An event that the state does not know. -/
theorem Linked.ignore {event : Event} {rest : List Handler} (hlinked : Linked c)
    (hposted : c.posted = .event event :: rest)
    (hignored : stateTransitionTable c.currentState event = none) (htimely : Timely c .run) :
    Linked { c with posted := rest } := by
  unfold Timely at htimely
  rw [hposted] at htimely
  refine hlinked.take hposted ?_ (Adds.refl _) (fun hmoves => ?_) (fun hsettles hup hoffline => ?_)
    (fun hloss hdown honline => ?_) (fun hchecks hstate _ => ?_)
  · by_contra hopens
    rw [Bool.not_eq_false] at hopens
    cases event with
    | connect =>
        rw [(hlinked.opening hposted rfl).1] at hignored
        cases hignored
    | _ => cases hopens
  · rw [Handler.moves, hignored] at hmoves
    cases hmoves
  · cases event with
    | connectSuccess =>
        cases hstate : c.currentState with
        | idle => exact htimely hstate hup
        | connecting =>
            rw [hstate] at hignored
            cases hignored
        | _ => simp [hstate, Online] at hoffline
    | _ => cases hsettles
  · cases event with
    | reconnectRequest => rcases honline with hstate | hstate | hstate <;> rw [hstate] at hignored <;>
        cases hignored
    | writeTimeout =>
        rcases honline with hstate | hstate | hstate
        · exact htimely (.inl hstate) hdown
        · rw [hstate] at hignored
          cases hignored
        · exact htimely (.inr hstate) hdown
    | checkCommand | writeCommand =>
        rw [of_decide_eq_true hloss] at hignored
        cases hignored
    | _ => cases hloss
  · rw [hstate] at hignored
    cases event with
    | checkCommand | writeCommand | reconnectRequest => cases hignored
    | _ => cases hchecks

theorem enter_fields (c : Client) (next : State) :
    (c.enter next).currentState = next ∧ (c.enter next).isConnected = c.isConnected ∧
      (c.enter next).connecting = c.connecting ∧ (c.enter next).commandQueue = c.commandQueue ∧
      (c.enter next).armed = c.armed ∧
      (c.enter next).posted =
        c.posted ++ if next = .connected then [.checkCommandQueue] else [] := by
  unfold enter
  split_ifs
  · exact ⟨rfl, rfl, rfl, rfl, rfl, rfl⟩
  · exact ⟨rfl, rfl, rfl, rfl, rfl, (List.append_nil _).symm⟩

/-- Entering a state in which the client takes itself for connected. -/
theorem Linked.enterOnline {handler : Handler} {rest : List Handler} {queue : List Command}
    {next : State} (hlinked : Linked c) (hbusy : c.currentState ≠ .idle)
    (hposted : c.posted = handler :: rest)
    (hadds : Adds { c with posted := rest, commandQueue := queue } d) (hnext : Online next)
    (halive : next = .connected ∨ (∃ timer ∈ next.timers, d.armed timer) ∨
      ∃ other ∈ d.posted, other.moves next)
    (hlost : d.isConnected = false → ∃ other ∈ d.posted, other.tellsLoss next d.commandQueue) :
    Linked (d.enter next) := by
  obtain ⟨hreconnect, htame⟩ := hlinked.tame hbusy
  obtain ⟨-, hconnected, hconnecting, -, hreconnect', -, more, hafter, hmore⟩ := hadds
  obtain ⟨hstate, hconnected', hconnecting', hqueue, harmed, hentered⟩ := enter_fields d next
  -- what was pending before the state was entered still is
  have hkeeps {kind : Handler → Bool} (hpending : ∃ other ∈ d.posted, kind other) :
      ∃ other ∈ (d.enter next).posted, kind other := by
    obtain ⟨other, hmem, hkind⟩ := hpending
    exact ⟨other, hentered ▸ List.mem_append_left _ hmem, hkind⟩
  refine linked_of_busy ?_ ?_ ?_ ?_ ?_ ?_ ?_ ?_
  · rw [hstate]
    rintro rfl
    rcases hnext with hnext | hnext | hnext <;> cases hnext
  · rw [harmed, hreconnect']
    exact hreconnect
  · rw [hentered, hafter]
    intro other hother
    rcases List.mem_append.mp hother with hmem | hmem
    · rcases List.mem_append.mp hmem with hmem | hmem
      · exact htame other (hposted ▸ List.mem_cons_of_mem _ hmem)
      · exact hmore other hmem
    · split_ifs at hmem
      · rw [List.mem_singleton.mp hmem]
        rfl
      · cases hmem
  · rw [hconnecting', hconnected', hconnecting, hconnected]
    exact hlinked.apart
  · rw [hstate, harmed]
    exact halive.imp id (Or.imp id hkeeps)
  · rw [hstate]
    exact fun _ hoffline => absurd hnext hoffline
  · rw [hconnected', hstate, hqueue]
    exact fun hdown _ => hkeeps (hlost hdown)
  · rw [hstate]
    rintro rfl _
    exact ⟨_, hentered ▸ List.mem_append_right _ List.mem_cons_self, rfl⟩

/-- Entering `IDLE`, with the reconnect timer running. -/
theorem Linked.enterIdle {handler : Handler} {rest more : List Handler} (hlinked : Linked c)
    (hbusy : c.currentState ≠ .idle) (hposted : c.posted = handler :: rest)
    (hafter : d.posted = rest ++ more) (hmore : ∀ other ∈ more, other.opens = false)
    (hreconnect : d.armed .reconnect) (hapart : d.connecting → d.isConnected = false)
    (hsettled : d.isConnected → ∃ other ∈ d.posted, other.settles) : Linked (d.enter .idle) := by
  have htame := (hlinked.tame hbusy).2
  have hnone : ∀ other ∈ d.posted, other.opens = false := by
    rw [hafter]
    intro other hother
    rcases List.mem_append.mp hother with hmem | hmem
    · exact ((tame_iff other).mp (htame other (hposted ▸ List.mem_cons_of_mem _ hmem))).1
    · exact hmore other hmem
  refine linked_of_idle rfl ?_ ?_ hapart hsettled
  · have hcount : d.posted.countP Handler.opens = 0 :=
      List.countP_eq_zero.mpr fun other hother => by simp [hnone other hother]
    show d.posted.countP Handler.opens + (if d.armed .reconnect then 1 else 0) = 1
    rw [hcount, if_pos hreconnect]
  · refine List.pairwise_of_forall_mem_list fun first hfirst _ _ hopens => ?_
    rw [hnone first hfirst] at hopens
    cases hopens

/-- A reconnect. -/
theorem Linked.enterIdle_beginReconnect {handler : Handler} {rest : List Handler}
    (hlinked : Linked c) (hbusy : c.currentState ≠ .idle) (hposted : c.posted = handler :: rest)
    (failActiveRequest : Bool) :
    Linked (({ c with posted := rest }.beginReconnect failActiveRequest).enter .idle) := by
  obtain ⟨hconnected, hconnecting, hreconnect, more, hafter, hmore⟩ :=
    beginReconnect_spec { c with posted := rest } failActiveRequest
  rw [List.append_assoc] at hafter
  refine hlinked.enterIdle hbusy hposted hafter (fun other hother => ?_) hreconnect ?_ (fun _ => ?_)
  · rcases List.mem_append.mp hother with hmem | hmem
    · exact ((tame_iff other).mp (hmore other hmem)).1
    · rw [List.mem_singleton.mp hmem]
      rfl
  · rw [hconnecting, hconnected]
    exact hlinked.apart
  · refine ⟨.clientClose, ?_, rfl⟩
    rw [hafter]
    exact List.mem_append_right _ (List.mem_append_right _ List.mem_cons_self)

/-- Outside `CONNECTED`, what tells of a loss does so in every state. -/
theorem tellsLoss_of_ne {state next : State} {queue other : List Command} {handler : Handler}
    (hstate : state ≠ .connected) (htells : handler.tellsLoss state queue) :
    handler.tellsLoss next other := by
  cases handler with
  | event event =>
      cases event with
      | checkCommand | writeCommand => exact absurd (of_decide_eq_true htells) hstate
      | _ => exact htells
  | checkCommandQueue =>
      simp only [Handler.tellsLoss, Bool.and_eq_true, decide_eq_true_eq] at htells
      exact absurd htells.1 hstate
  | _ => exact htells

/-- A loss that another handler tells of. -/
theorem Linked.lost_rest {handler : Handler} {rest : List Handler} {next : State}
    (hlinked : Linked c) (honline : Online c.currentState) (hstate : c.currentState ≠ .connected)
    (hposted : c.posted = handler :: rest)
    (hhandler : handler.tellsLoss c.currentState c.commandQueue = false)
    (hadds : Adds { c with posted := rest } d) (hdown : d.isConnected = false) :
    ∃ other ∈ d.posted, other.tellsLoss next d.commandQueue := by
  obtain ⟨-, hconnected, -, -, -, -, more, hafter, -⟩ := hadds
  obtain ⟨other, hmem, htells⟩ :=
    pending_rest (Handler.tellsLoss c.currentState c.commandQueue) hposted hhandler
      (hlinked.lost (hconnected.symm.trans hdown) honline)
  exact ⟨other, hafter ▸ List.mem_append_left _ hmem, tellsLoss_of_ne hstate htells⟩

/-- An event that the state knows. -/
theorem runEvent_of_some {event : Event} {next : State}
    (htable : stateTransitionTable c.currentState event = some next) :
    c.runEvent event = (c.eventHandler event).enter next := by
  unfold Client.runEvent
  rw [htable]

theorem Linked.connectEvent {rest : List Handler} (hlinked : Linked c)
    (hposted : c.posted = .event .connect :: rest) :
    Linked ((({ c with posted := rest }.post .clientConnect).start .connect).enter .connecting) := by
  obtain ⟨hstate, hreconnect, htame⟩ := hlinked.opening hposted rfl
  have hoffline : ¬Online c.currentState := by
    rw [hstate]
    decide
  have hnotidle : State.connecting ≠ .idle := by decide
  have hnotonline : ¬Online .connecting := by decide
  refine linked_of_busy hnotidle ?_ ?_ hlinked.apart ?_ (fun hup _ => ?_)
    (fun _ honline => absurd honline hnotonline) (fun hidle => by cases hidle)
  · show Function.update c.armed .connect true .reconnect = false
    rw [Function.update_of_ne (by decide)]
    exact hreconnect
  · show ∀ handler ∈ rest ++ [.clientConnect], handler.isTame
    intro handler hhandler
    rcases List.mem_append.mp hhandler with hmem | hmem
    · exact htame handler hmem
    · rw [List.mem_singleton.mp hmem]
      rfl
  · refine .inr (.inl ⟨.connect, List.mem_cons_self, ?_⟩)
    show Function.update c.armed .connect true .connect = true
    rw [Function.update_self]
  · obtain ⟨handler, hmem, hsettles⟩ :=
      pending_rest Handler.settles hposted rfl (hlinked.settled hup hoffline)
    exact ⟨handler, List.mem_append_left _ hmem, hsettles⟩

theorem Linked.connectingEvent {event : Event} {next : State} {rest : List Handler}
    (hlinked : Linked c) (hstate : c.currentState = .connecting)
    (hposted : c.posted = .event event :: rest)
    (htable : stateTransitionTable .connecting event = some next) :
    Linked (({ c with posted := rest }.handleConnectingState event).enter next) := by
  have hbusy : c.currentState ≠ .idle := by
    rw [hstate]
    decide
  have hoffline : ¬Online c.currentState := by
    rw [hstate]
    decide
  unfold Client.handleConnectingState
  cases event with
  | connectSuccess =>
      obtain rfl := Option.some.inj htable
      rw [if_pos rfl]
      have hnotified : Adds { c with posted := rest }
          ({ c with posted := rest }.notifyConnectionState true) :=
        (Adds.refl _).notifyConnectionState true
      refine hlinked.enterOnline hbusy hposted (((hnotified.enqueueCommand _ _
        _).startHealthStatusTimer.startWatchdogTimer).post rfl) (.inl rfl) (.inl rfl) (fun _ => ?_)
      -- CHECK_COMMAND finds out whether the connection is still there
      exact ⟨_, mem_processEvent _ _, rfl⟩
  | connectFail =>
      obtain rfl := Option.some.inj htable
      rw [if_neg (by decide), if_pos rfl]
      have hnotified : Adds { c with posted := rest }
          ({ c with posted := rest }.notifyConnectionState false) :=
        (Adds.refl _).notifyConnectionState false
      revert hnotified
      generalize { c with posted := rest }.notifyConnectionState false = notified
      rintro ⟨-, hconnected, hconnecting, -, -, -, more, hafter, hmore⟩
      refine hlinked.enterIdle hbusy hposted hafter
        (fun other hother => ((tame_iff other).mp (hmore other hother)).1) ?_ ?_ (fun hup => ?_)
      · show Function.update notified.armed .reconnect true .reconnect = true
        rw [Function.update_self]
      · show notified.connecting → notified.isConnected = false
        rw [hconnecting, hconnected]
        exact hlinked.apart
      · have hup : c.isConnected := hconnected.symm.trans hup
        obtain ⟨other, hmem, hsettles⟩ :=
          pending_rest Handler.settles hposted rfl (hlinked.settled hup hoffline)
        exact ⟨other, hafter ▸ List.mem_append_left _ hmem, hsettles⟩
  | _ => cases htable

/-- A connection that is found to be lost. -/
theorem Adds.reportLoss (hadds : Adds c d) :
    Adds c (if !d.isConnected then d.processEvent .reconnectRequest else d) ∧
      (d.isConnected = false → .event .reconnectRequest ∈
        (if !d.isConnected then d.processEvent .reconnectRequest else d).posted) := by
  split_ifs with hdown
  · exact ⟨hadds.post rfl, fun _ => mem_processEvent _ _⟩
  · exact ⟨hadds, fun hlost => by simp [hlost] at hdown⟩

/-- Taking the next command, if there is one. -/
theorem adds_popFromCommandQueueAndEnqueueWrite (c : Client) :
    ∃ queue, Adds { c with commandQueue := queue } c.popFromCommandQueueAndEnqueueWrite := by
  unfold popFromCommandQueueAndEnqueueWrite
  cases c.commandQueue with
  | nil => exact ⟨c.commandQueue, Adds.refl c⟩
  | cons cmd rest =>
      dsimp only
      refine ⟨rest, ?_⟩
      split_ifs
      · refine Adds.write ?_ cmd
        exact Adds.refl { c with commandQueue := rest }
      · refine Adds.write ?_ cmd
        exact Adds.refl { c with commandQueue := rest }

theorem Linked.connectedEvent {event : Event} {next : State} {rest : List Handler}
    (hlinked : Linked c) (hstate : c.currentState = .connected)
    (hposted : c.posted = .event event :: rest)
    (htable : stateTransitionTable .connected event = some next) :
    Linked (({ c with posted := rest }.handleConnectedState event).enter next) := by
  have hbusy : c.currentState ≠ .idle := by
    rw [hstate]
    decide
  unfold Client.handleConnectedState
  cases event with
  | checkCommand =>
      obtain rfl := Option.some.inj htable
      rw [if_pos rfl]
      split_ifs with hup
      · exact hlinked.enterOnline hbusy hposted ((Adds.refl _).post rfl) (.inl rfl) (.inl rfl)
          (fun _ => ⟨_, mem_processEvent _ _, rfl⟩)
      · have hchecked : Adds { c with posted := rest } { c with posted := rest }.checkCommandQueue :=
          (Adds.refl _).checkCommandQueue
        refine hlinked.enterOnline hbusy hposted hchecked (.inl rfl) (.inl rfl) (fun hdown => ?_)
        have hdown : c.isConnected = false := hchecked.2.1.symm.trans hdown
        simp [hdown] at hup
  | writeCommand =>
      obtain rfl := Option.some.inj htable
      rw [if_neg (by decide), if_pos rfl]
      split_ifs with hup
      · exact hlinked.enterOnline hbusy hposted ((Adds.refl _).post rfl) (.inr (.inl rfl))
          (.inr (.inr ⟨_, mem_processEvent _ _, rfl⟩)) (fun _ => ⟨_, mem_processEvent _ _, rfl⟩)
      · obtain ⟨queue, hpopped⟩ := adds_popFromCommandQueueAndEnqueueWrite { c with posted := rest }
        have hstarted := hpopped.start (show Timer.send ≠ .reconnect by decide)
        refine hlinked.enterOnline hbusy hposted hstarted (.inr (.inl rfl))
          (.inr (.inl ⟨.send, List.mem_cons_self, ?_⟩)) (fun hdown => ?_)
        · simp [start]
        · have hdown : c.isConnected = false := hstarted.2.1.symm.trans hdown
          simp [hdown] at hup
  | reconnectRequest =>
      obtain rfl := Option.some.inj htable
      rw [if_neg (by decide), if_neg (by decide), if_pos rfl]
      exact hlinked.enterIdle_beginReconnect hbusy hposted false
  | _ => cases htable

theorem Linked.writingEvent {event : Event} {next : State} {rest : List Handler}
    (hlinked : Linked c) (hstate : c.currentState = .writingRequest)
    (hposted : c.posted = .event event :: rest)
    (htable : stateTransitionTable .writingRequest event = some next) :
    Linked (({ c with posted := rest }.handleWritingRequestState event).enter next) := by
  have hbusy : c.currentState ≠ .idle := by
    rw [hstate]
    decide
  have hnot : c.currentState ≠ .connected := by
    rw [hstate]
    decide
  have honline : Online c.currentState := .inr (.inl hstate)
  unfold Client.handleWritingRequestState
  cases event with
  | writeCompleted =>
      obtain rfl := Option.some.inj htable
      rw [if_pos rfl]
      split_ifs
      · have hdone : Adds { c with posted := rest }
            ({ c with posted := rest }.processEvent .unsolicitedRequestDone) := (Adds.refl _).post rfl
        exact hlinked.enterOnline hbusy hposted hdone (.inr (.inr rfl))
          (.inr (.inr ⟨_, mem_processEvent _ _, rfl⟩)) (hlinked.lost_rest honline hnot hposted rfl hdone)
      · have hstarted : Adds { c with posted := rest } ({ c with posted := rest }.start .ack) :=
          (Adds.refl _).start (by decide)
        refine hlinked.enterOnline hbusy hposted hstarted (.inr (.inr rfl))
          (.inr (.inl ⟨.ack, List.mem_cons_self, ?_⟩))
          (hlinked.lost_rest honline hnot hposted rfl hstarted)
        simp [start]
  | writeTimeout =>
      obtain rfl := Option.some.inj htable
      rw [if_neg (by decide), if_pos rfl]
      extract_lets reported
      obtain ⟨hreported, htold⟩ := Adds.reportLoss (Adds.refl { c with posted := rest })
      have hfailed : Adds { c with posted := rest }
          (reported.handleCommandErrorOrTimeout reported.currentCmdRequested .sendFailed) :=
        hreported.handleCommandErrorOrTimeout _ _
      refine hlinked.enterOnline hbusy hposted hfailed (.inl rfl) (.inl rfl) (fun hdown => ?_)
      have hdown : c.isConnected = false := hfailed.2.1.symm.trans hdown
      refine ⟨.event .reconnectRequest, ?_, rfl⟩
      exact ((Adds.refl _).handleCommandErrorOrTimeout _ _).mem (htold hdown)
  | reconnectRequest =>
      obtain rfl := Option.some.inj htable
      rw [if_neg (by decide), if_neg (by decide), if_pos rfl]
      exact hlinked.enterIdle_beginReconnect hbusy hposted true
  | _ => cases htable

theorem Linked.waitingEvent {event : Event} {next : State} {rest : List Handler}
    (hlinked : Linked c) (hstate : c.currentState = .waitingForResponse)
    (hposted : c.posted = .event event :: rest)
    (htable : stateTransitionTable .waitingForResponse event = some next) :
    Linked (({ c with posted := rest }.handleWaitingForResponseState event).enter next) := by
  have hbusy : c.currentState ≠ .idle := by
    rw [hstate]
    decide
  have hnot : c.currentState ≠ .connected := by
    rw [hstate]
    decide
  have honline : Online c.currentState := .inr (.inr hstate)
  have htaken : Adds { c with posted := rest } { c with posted := rest } := Adds.refl _
  -- the responses and time-outs that lead back to CONNECTED
  have hleaves (d : Client) (hadds : Adds { c with posted := rest } d)
      (hevent : Handler.tellsLoss c.currentState c.commandQueue (.event event) = false) :
      Linked (d.enter .connected) :=
    hlinked.enterOnline hbusy hposted hadds (.inl rfl) (.inl rfl)
      (hlinked.lost_rest honline hnot hposted hevent hadds)
  unfold Client.handleWaitingForResponseState
  cases event with
  | ackTimerCancelledAckReceived =>
      obtain rfl := Option.some.inj htable
      rw [if_pos rfl]
      have hstarted := htaken.start (show Timer.response ≠ .reconnect by decide)
      refine hlinked.enterOnline hbusy hposted hstarted (.inr (.inr rfl))
        (.inr (.inl ⟨.response, List.mem_cons_of_mem _ List.mem_cons_self, ?_⟩))
        (hlinked.lost_rest honline hnot hposted rfl hstarted)
      simp [start]
  | ackTimeout =>
      obtain rfl := Option.some.inj htable
      rw [if_neg (by decide), if_pos rfl]
      refine hleaves _ (Adds.handleCommandErrorOrTimeout ?_ _ _) rfl
      exact htaken
  | responseTimeout =>
      obtain rfl := Option.some.inj htable
      rw [if_neg (by decide), if_neg (by decide), if_pos rfl]
      refine hleaves _ (Adds.handleCommandErrorOrTimeout ?_ _ _) rfl
      refine (Adds.reportLoss ?_).1
      exact htaken
  | reconnectRequest =>
      obtain rfl := Option.some.inj htable
      simp only [if_pos]
      exact hlinked.enterIdle_beginReconnect hbusy hposted true
  | ackAsRspReceived | responseTimerCancelledRspReceived | unsolicitedRequestDone =>
      obtain rfl := Option.some.inj htable
      exact hleaves _ htaken rfl
  | _ => cases htable

theorem idle_or_connecting_or_online (state : State) :
    state = .idle ∨ state = .connecting ∨ Online state := by
  cases state <;> decide

/-- An event keeps the invariant. -/
theorem Linked.runEvent {event : Event} {rest : List Handler} (hlinked : Linked c)
    (hposted : c.posted = .event event :: rest) (htimely : Timely c .run) :
    Linked ({ c with posted := rest }.runEvent event) := by
  cases htable : stateTransitionTable c.currentState event with
  | none =>
      have hsame : { c with posted := rest }.runEvent event = { c with posted := rest } := by
        simp only [Client.runEvent, htable]
      rw [hsame]
      exact hlinked.ignore hposted htable htimely
  | some next =>
      have htaken : stateTransitionTable { c with posted := rest }.currentState event = some next :=
        htable
      rw [runEvent_of_some htaken]
      rcases idle_or_connecting_or_online c.currentState with hstate | hstate | hstate | hstate | hstate
      · rw [hstate] at htable
        obtain ⟨rfl, rfl⟩ : event = .connect ∧ next = .connecting := by
          cases event with
          | connect => exact ⟨rfl, (Option.some.inj htable).symm⟩
          | _ => cases htable
        have hhandler : { c with posted := rest }.eventHandler .connect =
            ({ c with posted := rest }.post .clientConnect).start .connect := by
          simp only [Client.eventHandler, hstate]
        rw [hhandler]
        exact hlinked.connectEvent hposted
      · have hhandler : { c with posted := rest }.eventHandler event =
            { c with posted := rest }.handleConnectingState event := by
          simp only [Client.eventHandler, hstate]
        rw [hhandler]
        exact hlinked.connectingEvent hstate hposted (hstate ▸ htable)
      · have hhandler : { c with posted := rest }.eventHandler event =
            { c with posted := rest }.handleConnectedState event := by
          simp only [Client.eventHandler, hstate]
        rw [hhandler]
        exact hlinked.connectedEvent hstate hposted (hstate ▸ htable)
      · have hhandler : { c with posted := rest }.eventHandler event =
            { c with posted := rest }.handleWritingRequestState event := by
          simp only [Client.eventHandler, hstate]
        rw [hhandler]
        exact hlinked.writingEvent hstate hposted (hstate ▸ htable)
      · have hhandler : { c with posted := rest }.eventHandler event =
            { c with posted := rest }.handleWaitingForResponseState event := by
          simp only [Client.eventHandler, hstate]
        rw [hhandler]
        exact hlinked.waitingEvent hstate hposted (hstate ▸ htable)

/-! ## Runs -/

/-- The expiry of a timer raises the event the timer stands for. -/
theorem Linked.runExpired {timer : Timer} {rest : List Handler} (hlinked : Linked c)
    (hposted : c.posted = .expired timer :: rest) :
    Linked ({ c with posted := rest }.runExpired timer) := by
  have hevent (event : Event) (hopens : Handler.opens (.expired timer) = false)
      (htame : Handler.isTame (.event event))
      (hmoves : Handler.moves c.currentState (.expired timer) →
        Handler.moves c.currentState (.event event)) :
      Linked ({ c with posted := rest }.processEvent event) :=
    hlinked.take hposted hopens ((Adds.refl _).post htame)
      (fun hmoving => ⟨_, mem_processEvent _ _, hmoves hmoving⟩) (fun h => by cases h)
      (fun h => by cases h) (fun h => by cases h)
  have hstays (d : Client) (hopens : Handler.opens (.expired timer) = false)
      (hmoves : Handler.moves c.currentState (.expired timer) = false)
      (hadds : Adds { c with posted := rest } d) : Linked d := by
    refine hlinked.take hposted hopens hadds (fun hmoving => ?_) (fun h => by cases h)
      (fun h => by cases h) (fun h => by cases h)
    rw [hmoves] at hmoving
    cases hmoving
  cases timer with
  | reconnect => exact hlinked.runExpiredReconnect hposted
  | connect => exact hevent .connectFail rfl rfl (by cases c.currentState <;> decide)
  | send => exact hevent .writeTimeout rfl rfl (by cases c.currentState <;> decide)
  | response => exact hevent .responseTimeout rfl rfl (by cases c.currentState <;> decide)
  | ack => exact hevent .ackTimeout rfl rfl (by cases c.currentState <;> decide)
  | watchdog =>
      exact hstays _ rfl (by cases c.currentState <;> decide) (Adds.refl _).startWatchdogTimer
  | healthStatus =>
      exact hstays _ rfl (by cases c.currentState <;> decide) (Adds.refl _).startHealthStatusTimer

/-- A handler of the queue keeps the invariant. -/
theorem Linked.runHandler {handler : Handler} {rest : List Handler} (hlinked : Linked c)
    (hposted : c.posted = handler :: rest) (htimely : Timely c .run) :
    Linked ({ c with posted := rest }.runHandler handler) := by
  -- handlers that nothing depends on
  have hplain (d : Client) (hopens : handler.opens = false)
      (hmoves : handler.moves c.currentState = false) (hsettles : handler.settles = false)
      (hloss : handler.tellsLoss c.currentState c.commandQueue = false)
      (hchecks : handler.checksQueue = false) (hadds : Adds { c with posted := rest } d) :
      Linked d := by
    refine hlinked.take hposted hopens hadds ?_ ?_ ?_ ?_
    · simp [hmoves]
    · simp [hsettles]
    · simp [hloss]
    · simp [hchecks]
  cases handler with
  | event event => exact hlinked.runEvent hposted htimely
  | checkCommandQueue => exact hlinked.checkCommandQueue hposted
  | enqueueCommand type priority data =>
      exact (hplain _ rfl rfl rfl rfl rfl (Adds.refl _)).runEnqueueCommand type priority data
  | commandFailure type status => exact hplain _ rfl rfl rfl rfl rfl (Adds.refl _)
  | handleConnect success =>
      have hconnecting (hmoves : Handler.moves c.currentState (.handleConnect success)) :
          Handler.moves c.currentState (.event (if success then .connectSuccess else .connectFail)) := by
        rw [of_decide_eq_true hmoves]
        cases success <;> rfl
      refine hlinked.complete hposted rfl (by decide) (Adds.post (Adds.refl _) ?_)
        (mem_processEvent _ _) (fun htimer => hconnecting ?_) hconnecting ?_ (fun h => by cases h) rfl
      · cases success <;> rfl
      · cases hstate : c.currentState <;> simp [hstate, State.timers, Handler.moves] at htimer ⊢
      · cases success <;> decide
  | handleSend success =>
      have hwriting (hmoves : Handler.moves c.currentState (.handleSend success)) :
          Handler.moves c.currentState (.event (if success then .writeCompleted else .writeTimeout)) := by
        rw [of_decide_eq_true hmoves]
        cases success <;> rfl
      refine hlinked.complete hposted rfl (by decide) (Adds.post (Adds.refl _) ?_)
        (mem_processEvent _ _) (fun htimer => hwriting ?_) hwriting (fun h => by cases h) ?_ rfl
      · cases success <;> rfl
      · cases hstate : c.currentState <;> simp [hstate, State.timers, Handler.moves] at htimer ⊢
      · cases success <;> simp [Handler.tellsLoss]
  | received data => exact hlinked.received hposted
  | receiveFailed =>
      refine hlinked.take hposted rfl ((Adds.refl _).post rfl) (fun h => by cases h)
        (fun h => by cases h) (fun _ _ _ => ?_) (fun h => by cases h)
      exact ⟨_, mem_processEvent _ _, rfl⟩
  | clientConnect =>
      exact (hplain _ rfl rfl rfl rfl rfl (Adds.refl _)).clientConnect
  | clientSend message =>
      exact hplain _ rfl rfl rfl rfl rfl ((Adds.refl _).clientSend message)
  | clientClose =>
      have hstate : c.currentState = .idle :=
        hlinked.closesIdle (hposted ▸ List.mem_cons_self)
      have hoffline : ¬Online c.currentState := by
        rw [hstate]
        decide
      have hclosed : Linked c.clientClose :=
        hlinked.clientClose (fun honline => absurd honline hoffline)
      have htaken : c.clientClose.posted = .clientClose :: rest := hposted
      exact hclosed.take htaken rfl (Adds.refl _) (fun h => by cases h) (fun _ hup => by cases hup)
        (fun h => by cases h) (fun h => by cases h)
  | expired timer => exact hlinked.runExpired hposted

/-- A timer other than the one for the reconnect expires. -/
theorem Linked.expire (hlinked : Linked c) {timer : Timer} (htimer : timer ≠ .reconnect) :
    Linked ((c.cancel timer).post (.expired timer)) := by
  have hmem : .expired timer ∈ ((c.cancel timer).post (.expired timer)).posted :=
    List.mem_append_right _ List.mem_cons_self
  have hopens : Handler.opens (.expired timer) = false := by
    cases timer with
    | reconnect => exact absurd rfl htimer
    | _ => rfl
  refine hlinked.pass (List.nil_append _).symm rfl (by simp) ?_ rfl rfl (cancel_armed htimer.symm)
    hlinked.apart id ?_ (by simp) (by simp) (by simp) (fun _ hqueue => .inl ⟨hqueue, by simp⟩)
  · intro handler hhandler
    rw [List.mem_singleton.mp hhandler, tame_iff]
    exact ⟨hopens, by simp⟩
  · intro other hother hbefore
    by_cases hsame : other = timer
    · exact .inr ⟨_, hmem, by simpa [Handler.moves] using hsame ▸ hother⟩
    · exact .inl ((cancel_armed hsame).trans hbefore)

/-- A connect attempt is over. -/
theorem Linked.connectDone (hlinked : Linked c) (hconnecting : c.connecting) (success : Bool) :
    Linked ({ c with connecting := false, isConnected := success }.post
      (.handleConnect success)) := by
  have hdown := hlinked.apart hconnecting
  have hreported : Linked ({ c with connecting := false, isConnected := false }.post
      (.handleConnect success)) := by
    refine hlinked.pass (List.nil_append _).symm rfl (by simp) (by simp [Handler.isTame, Handler.opens])
      rfl hdown.symm rfl (fun h => by cases h) id (fun timer _ hbefore => .inl hbefore) (by simp)
      (by simp) (by simp) (fun _ hqueue => .inl ⟨hqueue, by simp⟩)
  cases success with
  | false => exact hreported
  | true => exact hreported.connect rfl ⟨_, List.mem_append_right _ List.mem_cons_self, rfl⟩

/-- What happens in time keeps the invariant. -/
theorem Linked.step {input : Input} (hlinked : Linked c) (htimely : Timely c input) :
    Linked (c.step input) := by
  cases input with
  | run =>
      cases hposted : c.posted with
      | nil =>
          have hsame : c.step .run = c := by simp only [Client.step, hposted]
          rw [hsame]
          exact hlinked
      | cons handler rest =>
          have hstep : c.step .run = { c with posted := rest }.runHandler handler := by
            simp only [Client.step, hposted]
          rw [hstep]
          exact hlinked.runHandler hposted htimely
  | expire timer =>
      simp only [Client.step]
      split_ifs with harmed
      · by_cases htimer : timer = .reconnect
        · subst htimer
          exact hlinked.expireReconnect harmed
        · exact hlinked.expire htimer
      · exact hlinked
  | connectDone success =>
      simp only [Client.step]
      split_ifs with hconnecting
      · exact hlinked.connectDone hconnecting success
      · exact hlinked
  | writeDone success =>
      simp only [Client.step]
      split_ifs
      · exact hlinked
      · exact hlinked.adds (Adds.post (Adds.refl _) rfl)
      · have hfailed : Linked (c.post (.handleSend false)) := hlinked.adds ((Adds.refl c).post rfl)
        exact hfailed.clientClose
          (fun _ => ⟨_, List.mem_append_right _ List.mem_cons_self, rfl⟩)
  | readDone data =>
      simp only [Client.step]
      split_ifs
      · exact hlinked.adds ((Adds.refl c).post rfl)
      · exact hlinked
  | readFailed =>
      simp only [Client.step]
      split_ifs
      · have hfailed : Linked (c.post .receiveFailed) := hlinked.adds ((Adds.refl c).post rfl)
        exact hfailed.clientClose
          (fun _ => ⟨_, List.mem_append_right _ List.mem_cons_self, rfl⟩)
      · exact hlinked
  | enqueue type priority data => exact hlinked.adds ((Adds.refl c).enqueueCommand _ _ _)
  | reject type => exact hlinked.adds ((Adds.refl c).post rfl)
  | clock now => exact hlinked.adds (Adds.refl c)

theorem linked_init (config : ClientConfig) (now : LocalTime) : Linked (init config now) := by
  refine linked_of_idle rfl rfl ?_ (fun h => by cases h) (fun h => by cases h)
  exact List.pairwise_singleton _ _

/-- As long as both reports come in time, the client and its connection agree in every state
with nothing pending. -/
theorem agrees_of_timely (config : ClientConfig) (now : LocalTime) (inputs : List Input)
    (htimely : Meets step Timely (init config now) inputs) :
    Agrees (run step (init config now) inputs) := by
  have hstep (c : Client) (input : Input) (hlinked : Linked c) (hallowed : Timely c input) :
      Linked (c.step input) :=
    hlinked.step hallowed
  exact (run_invariant hstep (linked_init config now) htimely).agrees

/-! ## Reports that come too late -/

/-- The client at noon. -/
def atNoon : Client := init ⟨97, 33, 10⟩ ⟨3, 5, 2024, 12, 0, 0⟩

/-- The thread takes so many handlers. -/
def takes (count : ℕ) : List Input := List.replicate count .run

/-- A connect fails; the next succeeds, and `START_REQ_CMD` is written. -/
def reconnected : List Input :=
  takes 2 ++ [Input.connectDone false] ++ takes 2 ++ [Input.expire .reconnect] ++
    takes 3 ++ [Input.connectDone true] ++ takes 14 ++ [Input.writeDone true] ++
    takes 2

/-- The connect timer expires, then the connect succeeds. -/
def lateConnect : List Input :=
  takes 2 ++ [Input.expire .connect] ++ takes 2 ++ [Input.connectDone true] ++
    takes 2

/-- Three requests are not written in time; then the write fails. -/
def lateWriteFailure : List Input :=
  takes 2 ++ [Input.connectDone true] ++ takes 14 ++
    ([Input.expire .send] ++ takes 8 ++ [Input.expire .send] ++ takes 8 ++
      [Input.expire .send] ++ takes 8) ++ [Input.writeDone false] ++ takes 2

/-- The client waits for the response to its request, and nothing is pending. -/
theorem agrees_reconnected :
    Agrees (run step atNoon reconnected) ∧ (run step atNoon reconnected).posted = [] ∧
      (run step atNoon reconnected).isConnected ∧
      (run step atNoon reconnected).currentState = .waitingForResponse :=
  ⟨agrees_of_timely _ _ reconnected (by decide +kernel), by decide +kernel⟩

/-- A connection that is made behind the connect timer finds the client in `IDLE`, and a write
that fails behind the send timer finds it in `CONNECTED`. -/
theorem not_agrees_late :
    ¬Agrees (run step atNoon lateConnect) ∧ (run step atNoon lateConnect).isConnected ∧
      (run step atNoon lateConnect).currentState = .idle ∧
      ¬Agrees (run step atNoon lateWriteFailure) ∧
      (run step atNoon lateWriteFailure).isConnected = false ∧
      (run step atNoon lateWriteFailure).currentState = .connected := by
  decide +kernel

end Client

end LinuxPBS.Eep

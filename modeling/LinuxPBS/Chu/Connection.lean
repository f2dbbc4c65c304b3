import LinuxPBS.Library.Machine
import LinuxPBS.Tcp.Session

/-!
# The connection to the CHU

`CHUClient` keeps a TCP connection up.  It asks `AppTcpClient` for one, is told through the
handlers how that went, waits five seconds after a failure or a loss, and asks again; the
station hears of `connected` and `lost`.  Everything is done on the I/O thread of the client: the
tasks that were posted, the completions of the socket and of the reconnect timer, in any order.
An expiry that is already queued is not taken back by `cancel`.

```text
start --connect--> connecting --ok--> connected
                       |                  |
                     failed          closed, failed
                       v                  v
                      lost <--------------+
                       |
                  5 s, connect
```

`link_run` is about every run.  The last thing the station has heard is `connected` exactly while
the connection is up; all that has been read has been handed on; and the client is never stuck: the
connection is up with a read outstanding, or an attempt is under way or posted, or the timer is
running.

`FnSendMsgToCHU` takes its message or rejects it in one step.  Left out are the texts of the errors
and a `FnCHUClose` from the I/O thread, which does nothing.
-/

namespace LinuxPBS.Chu

open Machine

/-! ## The code -/

/-- `gbCHUstatus_` -/
inductive Status
  | empty
  | connecting
  | connected
  | lost
  deriving DecidableEq, Repr

/-- What is posted to the context, by the client and by its `AppTcpClient`. -/
inductive Task
  | start
  | message (text : List UInt8)
  | shutdown
  | connect
  | send (message : List UInt8)
  | close
  deriving DecidableEq

/-- `CHUClient` with its `AppTcpClient` -/
structure CHUClient where
  client : Option Tcp.Client := none
  moduleRunning : Bool := false
  acceptingWork : Bool := false
  stopping : Bool := false
  shuttingDown : Bool := false
  /-- `FnCHUClientInit` has not posted its task yet -/
  initializing : Bool := false
  status : Status := .empty
  reconnectScheduled : Bool := false
  tasks : List Task := []
  /-- the outstanding waits of the timer, and whether they were cancelled -/
  waits : List Bool := []
  /-- the states of the connection that the station has heard of since the start -/
  states : List Status := []
  /-- what the station has received since the start -/
  received : List (List UInt8) := []

namespace CHUClient

/-- `boost::asio::post` -/
def post (s : CHUClient) (task : Task) : CHUClient := { s with tasks := s.tasks ++ [task] }

/-- `client_->isConnected()` -/
def isConnected (s : CHUClient) : Bool := s.client.any (·.connected)

/-- `setConnectionStatusOnIoThread` -/
def setConnectionStatus (s : CHUClient) (status : Status) : CHUClient :=
  if s.status = status then s
  else
    let s := { s with status := status }
    if status = .connected ∨ status = .lost then { s with states := s.states ++ [status] } else s

/-- `cancelReconnectTimerOnIoThread` -/
def cancelReconnectTimer (s : CHUClient) : CHUClient :=
  { s with reconnectScheduled := false, waits := s.waits.map fun _ => true }

/-- `scheduleReconnectOnIoThread` -/
def scheduleReconnect (s : CHUClient) (isConnected : Bool) : CHUClient :=
  if s.stopping || s.shuttingDown || s.client.isNone || isConnected || s.reconnectScheduled then s
  else { s with reconnectScheduled := true, waits := (s.waits.map fun _ => true) ++ [false] }

/-- `requestConnectOnIoThread` -/
def requestConnect (s : CHUClient) : CHUClient :=
  if s.stopping || s.shuttingDown || s.client.isNone then s
  else if s.isConnected then s.cancelReconnectTimer.setConnectionStatus .connected
  else { s with reconnectScheduled := false, status := .connecting }.post .connect

/-- `handleReconnectTimerTimeout` -/
def handleReconnectTimerTimeout (s : CHUClient) (error : Tcp.Outcome) : CHUClient :=
  if error = .aborted || s.stopping || s.shuttingDown then s
  else
    let s := { s with reconnectScheduled := false }
    if error ≠ .ok then s.scheduleReconnect s.isConnected else s.requestConnect

/-- The handlers of the connection; `isConnected` is what the client says while they run. -/
def handle (s : CHUClient) (isConnected : Bool) : Tcp.Report → CHUClient
  -- `handleConnect`
  | .connect true => s.cancelReconnectTimer.setConnectionStatus .connected
  | .connect false => (s.setConnectionStatus .lost).scheduleReconnect isConnected
  -- `handleSend`
  | .send true => s
  | .send false =>
      if s.client.isNone || !isConnected then
        (s.setConnectionStatus .lost).scheduleReconnect isConnected
      else s
  -- `handleClose`
  | .close _ => (s.setConnectionStatus .lost).scheduleReconnect isConnected
  -- `handleReceivedData`
  | .receive false _ => s
  | .receive true data => { s with received := s.received ++ [data] }

/-- Each of them returns at once while the client is being closed. -/
def hear (s : CHUClient) (isConnected : Bool) (report : Tcp.Report) : CHUClient :=
  if s.stopping || s.shuttingDown then s else s.handle isConnected report

/-- What one piece of work of `AppTcpClient` reports.  It reports a send before it gives the
connection up, and everything else when it is done. -/
def hearAll (s : CHUClient) (before after : Bool) (news : List Tcp.Report) : CHUClient :=
  news.foldl (fun s report =>
    match report with
    | .send _ => s.hear before report
    | _ => s.hear after report) s

/-- A piece of work of `AppTcpClient` -/
def transport (s : CHUClient) (work : Tcp.Input) : CHUClient :=
  match s.client with
  | none => s
  | some client =>
      let after := Tcp.step client work
      let news := after.reports.drop client.reports.length
      { s with client := some after }.hearAll client.connected after.connected news

/-- `shutdownOnIoThread` -/
def shutdown (s : CHUClient) : CHUClient :=
  let s := s.cancelReconnectTimer
  { if s.client.isSome then s.post .close else s with status := .empty }

/-- The task that `FnSendMsgToCHU` posts -/
def sendMessage (s : CHUClient) (text : List UInt8) : CHUClient :=
  if s.stopping || s.shuttingDown then s
  else if s.client.isNone then s
  else if !s.isConnected then (s.setConnectionStatus .lost).scheduleReconnect s.isConnected
  else s.post (.send text)

/-- One task on the I/O thread; closing the socket may give an error. -/
def runTask (s : CHUClient) (closeError : Bool) : Task → CHUClient
  | .start =>
      if s.stopping || s.shuttingDown then s
      else { s with status := .connecting }.requestConnect
  | .message text => s.sendMessage text
  | .shutdown => s.shutdown
  | .connect => s.transport .connect
  | .send message => s.transport (.send message)
  | .close => s.transport (.close closeError)

/-- `resetRuntimeState` -/
def resetRuntimeState (s : CHUClient) : CHUClient :=
  { s with reconnectScheduled := false, status := .empty }

/-- `FnCHUClientInit` up to its task: the client can be created, the thread can be started. -/
def init (s : CHUClient) (created started : Bool) : CHUClient :=
  if s.moduleRunning then s
  else
    let s := s.resetRuntimeState
    if !created then s
    else
      let s := { s with
        client := some {}, stopping := false, shuttingDown := false, acceptingWork := true
        states := [], received := [] }
      if started then { s with moduleRunning := true, initializing := true }
      else
        { s with acceptingWork := false, stopping := true, shuttingDown := true, client := none }

/-- `FnCHUClose` up to the wait for the thread -/
def close (s : CHUClient) : CHUClient :=
  let s := { s with acceptingWork := false, stopping := true, shuttingDown := true }
  if !s.moduleRunning then
    { s.resetRuntimeState with client := none, stopping := false, shuttingDown := false }
  else s.post .shutdown

/-- Nothing is left to do for the thread. -/
def idle (s : CHUClient) : Bool :=
  s.tasks.isEmpty && s.waits.isEmpty && s.client.all fun client =>
    client.connects.isEmpty && client.writes.isEmpty && client.reads.isEmpty

/-- The end of `FnCHUClose`, behind the end of the thread -/
def joined (s : CHUClient) : CHUClient :=
  { s.resetRuntimeState with
    client := none, moduleRunning := false, stopping := false, shuttingDown := false }

end CHUClient

/-- What happens to the client. -/
inductive Input
  | init (created started : Bool)
  /-- `FnCHUClientInit` posts its task -/
  | initialized
  /-- `FnSendMsgToCHU` -/
  | message (text : List UInt8)
  /-- the thread takes the next task -/
  | run (closeError : Bool)
  /-- a wait of the timer completes -/
  | timer (place : ℕ) (error : Tcp.Outcome)
  /-- an operation on the socket completes, or puts bytes on the connection -/
  | socket (work : Tcp.Input)
  | close
  | joined
  deriving DecidableEq

/-- Work that `AppTcpClient` is not asked for. -/
def ofSocket : Tcp.Input → Bool
  | .connect | .send _ | .close _ => false
  | _ => true

instance genuineDecidable (client : Tcp.Client) :
    (work : Tcp.Input) → Decidable (client.Genuine work)
  | .onConnect _ .aborted | .onWrite _ .aborted | .onRead _ .aborted _ =>
      inferInstanceAs (Decidable (_ ∨ _))
  | .onConnect _ .ok | .onConnect _ .failed | .onWrite _ .ok | .onWrite _ .failed
  | .onRead _ .ok _ | .onRead _ .failed _ | .connect | .send _ | .close _ | .transfer _ _ =>
      inferInstanceAs (Decidable True)

namespace CHUClient

/-- What the I/O thread does.  Only what was cancelled completes with `operation_aborted`. -/
def work (s : CHUClient) : Input → CHUClient
  | .run closeError =>
      match s.tasks with
      | [] => s
      | task :: rest => { s with tasks := rest }.runTask closeError task
  | .timer place error =>
      match s.waits[place]? with
      | none => s
      | some cancelled =>
          if error = .aborted ∧ cancelled = false then s
          else { s with waits := s.waits.eraseIdx place }.handleReconnectTimerTimeout error
  | .socket work =>
      if ofSocket work ∧ (∀ client ∈ s.client, client.Genuine work) then s.transport work else s
  | _ => s

/-- One thing happens.  A mutex keeps `FnCHUClientInit` and `FnCHUClose` apart. -/
def step (s : CHUClient) : Input → CHUClient
  | .init created started => if s.initializing then s else s.init created started
  | .initialized => if s.initializing then { s with initializing := false }.post .start else s
  | .message text =>
      if !s.acceptingWork || s.shuttingDown then s else s.post (.message text)
  | .close => if s.initializing || (s.moduleRunning && s.stopping) then s else s.close
  | .joined => if s.moduleRunning && s.stopping && s.idle then s.joined else s
  | input => if s.moduleRunning then s.work input else s

end CHUClient

/-! ## What holds while the client serves -/

/-- What the station receives of what a connection reports -/
def dataOf (reports : List Tcp.Report) : List (List UInt8) :=
  reports.filterMap fun report =>
    match report with
    | .receive true data => some data
    | _ => none

namespace CHUClient

/-- The client has been started, and is not being closed. -/
def Serving (s : CHUClient) : Prop := s.moduleRunning = true ∧ s.stopping = false

/-- There is a connection, or something that will bring one: an attempt, or the timer. -/
def Alive (s : CHUClient) (client : Tcp.Client) : Prop :=
  client.connected = true ∧ client.connectionGeneration ∈ client.reads ∨
    client.connecting = true ∧ client.connectionGeneration ∈ client.connects ∨
    .connect ∈ s.tasks ∨ .start ∈ s.tasks ∨ s.initializing = true ∨
    s.reconnectScheduled = true ∧ false ∈ s.waits

/-- The station knows of the connection and has what was read, and the client is not stuck. -/
structure Linked (s : CHUClient) (client : Tcp.Client) : Prop where
  told : s.states.getLast? = some .connected ↔ client.connected = true
  handed : s.received = dataOf client.reports
  alive : s.Alive client

/-- The station has heard of the status, and a reconnect that is scheduled has its timer. -/
structure Base (s : CHUClient) : Prop where
  told : s.states.getLast? = some .connected ↔ s.status = .connected
  armed : s.reconnectScheduled = true → false ∈ s.waits

/-- What the handlers of the connection leave alone -/
def rest (s : CHUClient) : Option Tcp.Client × Bool × Bool × Bool × Bool × List Task :=
  (s.client, s.moduleRunning, s.stopping, s.shuttingDown, s.initializing, s.tasks)

/-- Nothing keeps the handlers from their work. -/
def Open (s : CHUClient) : Prop :=
  s.stopping = false ∧ s.shuttingDown = false ∧ s.client.isSome = true

variable {s t : CHUClient} {client after : Tcp.Client}

/-! ## The handlers -/

theorem Open.congr (hopen : s.Open) (hrest : t.rest = s.rest) : t.Open := by
  unfold rest at hrest
  simp only [Prod.mk.injEq] at hrest
  obtain ⟨hclient, -, hstopping, hshutting, -⟩ := hrest
  exact ⟨hstopping.trans hopen.1, hshutting.trans hopen.2.1,
    (congrArg Option.isSome hclient).trans hopen.2.2⟩

/-- A status that the station hears of. -/
theorem setConnectionStatus_spec (hbase : s.Base) {status : Status}
    (hstatus : status = .connected ∨ status = .lost) :
    (s.setConnectionStatus status).Base ∧ (s.setConnectionStatus status).status = status ∧
      (s.setConnectionStatus status).rest = s.rest ∧
      (s.setConnectionStatus status).received = s.received ∧
      (s.setConnectionStatus status).reconnectScheduled = s.reconnectScheduled := by
  unfold setConnectionStatus
  by_cases hsame : s.status = status
  · rw [if_pos hsame]
    exact ⟨hbase, hsame, rfl, rfl, rfl⟩
  · rw [if_neg hsame]
    dsimp only
    rw [if_pos hstatus]
    refine ⟨⟨?_, hbase.armed⟩, rfl, rfl, rfl, rfl⟩
    rw [List.getLast?_concat]
    exact Option.some_inj

/-- The connection is lost, and will be asked for again. -/
structure Lost (s t : CHUClient) : Prop where
  base : t.Base
  status : t.status = .lost
  rest : t.rest = s.rest
  received : t.received = s.received
  scheduled : t.reconnectScheduled = true

theorem Lost.status_iff {connected : Bool} (hlost : Lost s t) (hdown : connected = false) :
    t.status = .connected ↔ connected = true := by
  rw [hlost.status, hdown]
  exact iff_of_false Status.noConfusion Bool.false_ne_true

theorem lost_of_open (hbase : s.Base) (hopen : s.Open) {isConnected : Bool}
    (hdown : isConnected = false) :
    Lost s ((s.setConnectionStatus .lost).scheduleReconnect isConnected) := by
  obtain ⟨hlost, hstatus, hrest, hreceived, -⟩ := setConnectionStatus_spec hbase (.inr rfl)
  have hopen' := hopen.congr hrest
  generalize s.setConnectionStatus .lost = lost at hlost hstatus hrest hreceived hopen' ⊢
  obtain ⟨hstopping, hshutting, hclient⟩ := hopen'
  have hguard : (lost.stopping || lost.shuttingDown || lost.client.isNone || isConnected ||
      lost.reconnectScheduled) = lost.reconnectScheduled := by
    rw [hstopping, hshutting, Option.isNone_eq_false_iff.mpr hclient, hdown]
    rfl
  unfold scheduleReconnect
  rw [hguard]
  split_ifs with hscheduled
  · exact ⟨hlost, hstatus, hrest, hreceived, hscheduled⟩
  · exact ⟨⟨hlost.told, fun _ => List.mem_append_right _ List.mem_cons_self⟩, hstatus, hrest,
      hreceived, rfl⟩

/-- The connection is up, and the timer is not needed. -/
theorem gain_spec (hbase : s.Base) :
    (s.cancelReconnectTimer.setConnectionStatus .connected).Base ∧
      (s.cancelReconnectTimer.setConnectionStatus .connected).status = .connected ∧
      (s.cancelReconnectTimer.setConnectionStatus .connected).rest = s.rest ∧
      (s.cancelReconnectTimer.setConnectionStatus .connected).received = s.received := by
  have hcancelled : s.cancelReconnectTimer.Base := ⟨hbase.told, fun htrue => by cases htrue⟩
  obtain ⟨hafter, hstatus, hrest, hreceived, -⟩ := setConnectionStatus_spec hcancelled (.inl rfl)
  exact ⟨hafter, hstatus, hrest, hreceived⟩

/-- What the handlers keep while a session goes on. -/
structure Keeps (connected : Bool) (s t : CHUClient) : Prop where
  base : t.Base
  rest : t.rest = s.rest
  status : (s.status = .connected ↔ connected = true) → (t.status = .connected ↔ connected = true)
  scheduled : s.reconnectScheduled = true → t.reconnectScheduled = true

theorem Keeps.refl {connected : Bool} (hbase : s.Base) : s.Keeps connected s :=
  ⟨hbase, rfl, id, id⟩

theorem Keeps.trans {connected : Bool} {u : CHUClient} (hfirst : Keeps connected s t)
    (hsecond : Keeps connected t u) : Keeps connected s u :=
  ⟨hsecond.base, hsecond.rest.trans hfirst.rest, hsecond.status ∘ hfirst.status,
    hsecond.scheduled ∘ hfirst.scheduled⟩

theorem hear_of_open (hopen : s.Open) (isConnected : Bool) (report : Tcp.Report) :
    s.hear isConnected report = s.handle isConnected report := by
  obtain ⟨hstopping, hshutting, -⟩ := hopen
  unfold hear
  rw [hstopping, hshutting]
  rfl

/-- What a report that the session goes on, or one in front of its end, does to the client. -/
theorem keeps_hear (hbase : s.Base) (hopen : s.Open) (connected : Bool) {report : Tcp.Report}
    (hreport : report = .send true ∨ report = .send false ∨ ∃ success data,
      report = .receive success data) :
    s.Keeps connected (s.hear connected report) ∧
      (s.hear connected report).received = s.received ++ dataOf [report] := by
  rw [hear_of_open hopen]
  rcases hreport with rfl | rfl | ⟨success, data, rfl⟩
  · exact ⟨.refl hbase, (List.append_nil _).symm⟩
  · cases connected with
    | true =>
        have hstays : s.handle true (.send false) = s := by
          unfold handle
          rw [if_neg]
          rw [Bool.not_true, Bool.or_false, Option.isNone_eq_false_iff.mpr hopen.2.2]
          exact Bool.false_ne_true
        rw [hstays]
        exact ⟨.refl hbase, (List.append_nil _).symm⟩
    | false =>
        have hlost : s.handle false (.send false) =
            (s.setConnectionStatus .lost).scheduleReconnect false := by
          unfold handle
          rw [if_pos (by simp)]
        have hafter := lost_of_open hbase hopen (rfl : false = false)
        rw [hlost]
        refine ⟨⟨hafter.base, hafter.rest, fun _ => hafter.status_iff rfl, fun _ => ?_⟩,
          hafter.received.trans (List.append_nil _).symm⟩
        exact hafter.scheduled
  · cases success with
    | true => exact ⟨⟨⟨hbase.told, hbase.armed⟩, rfl, id, id⟩, rfl⟩
    | false => exact ⟨.refl hbase, (List.append_nil _).symm⟩

theorem dataOf_append (first second : List Tcp.Report) :
    dataOf (first ++ second) = dataOf first ++ dataOf second :=
  List.filterMap_append

/-- What is reported while the session goes on, or in front of its end; if it goes on, the client
keeps in step with it. -/
theorem keeps_hearAll (before now : Bool) {news : List Tcp.Report}
    (hnews : ∀ report ∈ news, report = .send true ∨ report = .send false ∨ ∃ success data,
      report = .receive success data) (hbase : s.Base) (hopen : s.Open) :
    (s.hearAll before now news).Base ∧ (s.hearAll before now news).rest = s.rest ∧
      (s.hearAll before now news).received = s.received ++ dataOf news ∧
        (before = now → s.Keeps now (s.hearAll before now news)) := by
  induction news generalizing s with
  | nil => exact ⟨hbase, rfl, (List.append_nil _).symm, fun _ => .refl hbase⟩
  | cons report rest ih =>
      rw [List.forall_mem_cons] at hnews
      obtain ⟨connected, hconnected, hfirst⟩ : ∃ connected, (before = now → connected = now) ∧
          s.hearAll before now (report :: rest) =
            (s.hear connected report).hearAll before now rest := by
        cases report with
        | send success => exact ⟨before, id, rfl⟩
        | _ => exact ⟨now, fun _ => rfl, rfl⟩
      obtain ⟨hkeeps, hreceived⟩ := keeps_hear hbase hopen connected hnews.1
      obtain ⟨hafter, hrest, hall, hsession⟩ := ih hnews.2 hkeeps.base (hopen.congr hkeeps.rest)
      rw [hfirst]
      refine ⟨hafter, hrest.trans hkeeps.rest, ?_, fun hsame => ?_⟩
      · rw [hall, hreceived, List.append_assoc, ← dataOf_append]
        rfl
      · exact Keeps.trans (hconnected hsame ▸ hkeeps) (hsession hsame)

theorem hearAll_append (before now : Bool) (first second : List Tcp.Report) :
    s.hearAll before now (first ++ second) =
      (s.hearAll before now first).hearAll before now second :=
  List.foldl_append

/-- While the client serves, it is in step with its connection. -/
structure Serves (s : CHUClient) (client : Tcp.Client) : Prop where
  base : s.Base
  status : s.status = .connected ↔ client.connected = true
  handed : s.received = dataOf client.reports

/-- What is there of the connection when a piece of work has been done. -/
def Onward (s t : CHUClient) (client after : Tcp.Client) : Prop :=
  after.connected = true ∨ t.reconnectScheduled = true ∨
    after.connected = client.connected ∧ (client.connecting = true → after.connecting = true) ∧
      (s.reconnectScheduled = true → t.reconnectScheduled = true)

/-- A piece of work of the connection, and what the client makes of it. -/
theorem transport_spec (hserves : s.Serves client) (hopen : s.Open)
    (hclient : s.client = some client) {work : Tcp.Input}
    (hturns : client.Turns (Tcp.step client work)) :
    (s.transport work).Serves (Tcp.step client work) ∧
      (s.transport work).rest = { s with client := some (Tcp.step client work) }.rest ∧
      Onward s (s.transport work) client (Tcp.step client work) := by
  obtain ⟨-, news, hreports, hturn⟩ := hturns
  have hafter : s.transport work =
      { s with client := some (Tcp.step client work) }.hearAll client.connected
        (Tcp.step client work).connected news := by
    unfold transport
    rw [hclient]
    dsimp only
    rw [hreports, List.drop_left]
  rw [hafter]
  generalize Tcp.step client work = after at hreports hturn ⊢
  have hbase : Base { s with client := some after } := ⟨hserves.base.told, hserves.base.armed⟩
  have hready : Open { s with client := some after } := ⟨hopen.1, hopen.2.1, rfl⟩
  have hdata : dataOf after.reports = s.received ++ dataOf news := by
    rw [hreports, dataOf_append, hserves.handed]
  cases hturn with
  | goes hconnected hconnecting hnews =>
      have hkinds : ∀ report ∈ news, report = .send true ∨ report = .send false ∨
          ∃ success data, report = .receive success data := by
        intro report hmem
        rcases hnews report hmem with htrue | ⟨data, hdata⟩ | ⟨hfalse, -⟩
        · exact .inl htrue
        · exact .inr (.inr ⟨_, _, hdata⟩)
        · exact .inr (.inl hfalse)
      rw [hconnected]
      obtain ⟨-, -, hreceived, hsession⟩ :=
        keeps_hearAll client.connected client.connected hkinds hbase hready
      have hkeeps := hsession rfl
      refine ⟨⟨hkeeps.base, ?_, hreceived.trans hdata.symm⟩, hkeeps.rest,
        .inr (.inr ⟨hconnected, hconnecting, hkeeps.scheduled⟩)⟩
      rw [hconnected]
      exact hkeeps.status hserves.status
  | opened hconnected =>
      obtain ⟨hgained, hstatus, hrest, hreceived⟩ := gain_spec hbase
      have hheard : { s with client := some after }.hearAll client.connected after.connected
          [.connect true] =
            { s with client := some after }.cancelReconnectTimer.setConnectionStatus .connected :=
        hear_of_open hready _ _
      rw [hheard]
      refine ⟨⟨hgained, iff_of_true hstatus hconnected, ?_⟩, hrest, .inl hconnected⟩
      rw [hreceived, hdata]
      exact (List.append_nil _).symm
  | refused hconnected =>
      have hlost := lost_of_open hbase hready hconnected
      have hheard : { s with client := some after }.hearAll client.connected after.connected
          [.connect false] = ({ s with client := some after }.setConnectionStatus
            .lost).scheduleReconnect after.connected :=
        hear_of_open hready _ _
      rw [hheard]
      refine ⟨⟨hlost.base, hlost.status_iff hconnected, ?_⟩, hlost.rest,
        .inr (.inl hlost.scheduled)⟩
      rw [hlost.received, hdata]
      exact (List.append_nil _).symm
  | @left front hfront success hconnected =>
      have hkinds : ∀ report ∈ front, report = .send true ∨ report = .send false ∨
          ∃ success data, report = .receive success data := fun report hmem =>
        (hfront report hmem).elim (fun hsend => .inr (.inl hsend)) fun hreceive =>
          .inr (.inr ⟨_, _, hreceive⟩)
      obtain ⟨hfirst, hsame, hfrom, -⟩ :=
        keeps_hearAll client.connected after.connected hkinds hbase hready
      have hnone : dataOf front = [] := by
        refine List.filterMap_eq_nil_iff.mpr fun report hmem => ?_
        rcases hfront report hmem with rfl | rfl <;> rfl
      rw [hearAll_append]
      generalize { s with client := some after }.hearAll client.connected after.connected front = t
        at hfirst hsame hfrom
      have hopen' := hready.congr hsame
      have hlost := lost_of_open hfirst hopen' hconnected
      have hheard : t.hearAll client.connected after.connected [.close success] =
          (t.setConnectionStatus .lost).scheduleReconnect after.connected :=
        hear_of_open hopen' _ _
      rw [hheard]
      refine ⟨⟨hlost.base, hlost.status_iff hconnected, ?_⟩, hlost.rest.trans hsame,
        .inr (.inl hlost.scheduled)⟩
      rw [hlost.received, hfrom, hdata, dataOf_append, hnone]
      exact congrArg (s.received ++ ·) (List.append_nil _).symm

/-! ## Every run -/

/-- An attempt, or the timer, or a connection is still there. -/
theorem Alive.transport (halive : s.Alive client) (hsession : after.Session) (hbase : t.Base)
    (htasks : ∀ task ∈ s.tasks, task ∈ t.tasks) (hinitializing : t.initializing = s.initializing)
    (honward : Onward s t client after) : t.Alive after := by
  rcases honward with hup | hscheduled | ⟨hconnected, hconnecting, hscheduled⟩
  · exact .inl ⟨hup, (hsession.connected hup).2⟩
  · exact .inr (.inr (.inr (.inr (.inr ⟨hscheduled, hbase.armed hscheduled⟩))))
  · rcases halive with ⟨hup, -⟩ | ⟨hbusy, -⟩ | hconnect | hstart | hinit | ⟨hwaiting, -⟩
    · have hstays := hconnected.trans hup
      exact .inl ⟨hstays, (hsession.connected hstays).2⟩
    · exact .inr (.inl ⟨hconnecting hbusy, hsession.pending.mpr (hconnecting hbusy)⟩)
    · exact .inr (.inr (.inl (htasks _ hconnect)))
    · exact .inr (.inr (.inr (.inl (htasks _ hstart))))
    · exact .inr (.inr (.inr (.inr (.inl (hinitializing.trans hinit)))))
    · have hstays := hscheduled hwaiting
      exact .inr (.inr (.inr (.inr (.inr ⟨hstays, hbase.armed hstays⟩))))

/-- The invariant of a run, with what there is of a connection. -/
structure SoundWith (alive : Tcp.Client → Prop) (s : CHUClient) : Prop where
  shutting : s.shuttingDown = s.stopping
  session : ∀ client ∈ s.client, client.Session
  running : s.moduleRunning = true → s.client.isSome = true
  shutdown : .shutdown ∈ s.tasks → s.moduleRunning = true ∧ s.stopping = true
  serves : s.moduleRunning = true → s.stopping = false → ∀ client ∈ s.client,
    s.Serves client ∧ alive client

/-- The invariant of a run -/
def Sound (s : CHUClient) : Prop := s.SoundWith s.Alive

/-- While the client serves, the invariant is that it is in step with its connection. -/
theorem SoundWith.of_serves {alive alive' : Tcp.Client → Prop} (hsound : s.SoundWith alive)
    (hsession : after.Session) (hrest : t.rest = { s with client := some after }.rest)
    (hserves : t.Serves after) (halive : alive' after) : t.SoundWith alive' := by
  unfold rest at hrest
  simp only [Prod.mk.injEq] at hrest
  obtain ⟨hclient, hrunning, hstopping, hshutting, -, htasks⟩ := hrest
  have honly {other : Tcp.Client} (hmem : other ∈ t.client) : after = other :=
    Option.some_inj.mp (hclient.symm.trans hmem)
  refine ⟨hshutting.trans (hsound.shutting.trans hstopping.symm), fun other hmem => ?_,
    fun _ => by rw [hclient]; rfl, fun hmem => ?_, fun _ _ other hmem => ?_⟩
  · exact honly hmem ▸ hsession
  · rw [hrunning, hstopping]
    exact hsound.shutdown (htasks ▸ hmem)
  · exact honly hmem ▸ ⟨hserves, halive⟩

/-- The same but for what is posted and scheduled. -/
theorem SoundWith.congr {alive alive' : Tcp.Client → Prop} (hsound : s.SoundWith alive)
    {tasks : List Task} {waits : List Bool} {scheduled initializing : Bool}
    (harmed : s.stopping = false → (s.reconnectScheduled = true → false ∈ s.waits) →
      scheduled = true → false ∈ waits)
    (hshutdown : .shutdown ∈ tasks → .shutdown ∈ s.tasks)
    (halive : s.stopping = false → ∀ client ∈ s.client, alive client → alive' client) :
    SoundWith alive' { s with
      tasks := tasks, waits := waits, reconnectScheduled := scheduled
      initializing := initializing } := by
  refine ⟨hsound.shutting, hsound.session, hsound.running, hsound.shutdown ∘ hshutdown,
    fun hup hopen client hmem => ?_⟩
  obtain ⟨⟨⟨htold, hbefore⟩, hlink, hhanded⟩, hbefore'⟩ := hsound.serves hup hopen client hmem
  exact ⟨⟨⟨htold, harmed hopen hbefore⟩, hlink, hhanded⟩, halive hopen client hmem hbefore'⟩

/-- Whatever will bring a connection is still there. -/
theorem Alive.imp (halive : s.Alive client) (hconnect : .connect ∈ s.tasks → .connect ∈ t.tasks)
    (hstart : .start ∈ s.tasks → .start ∈ t.tasks)
    (hinitializing : s.initializing = true → t.initializing = true)
    (hwaiting : s.reconnectScheduled = true → false ∈ s.waits →
      t.reconnectScheduled = true ∧ false ∈ t.waits) : t.Alive client := by
  rcases halive with hup | hbusy | hmem | hmem | hinit | ⟨hscheduled, hmem⟩
  · exact .inl hup
  · exact .inr (.inl hbusy)
  · exact .inr (.inr (.inl (hconnect hmem)))
  · exact .inr (.inr (.inr (.inl (hstart hmem))))
  · exact .inr (.inr (.inr (.inr (.inl (hinitializing hinit)))))
  · exact .inr (.inr (.inr (.inr (.inr (hwaiting hscheduled hmem)))))

theorem Sound.post (hsound : s.Sound) {task : Task} (htask : task ≠ .shutdown) :
    (s.post task).Sound := by
  refine SoundWith.congr hsound (fun _ harmed => harmed) (fun hmem => ?_) fun _ _ _ halive =>
    halive.imp (List.mem_append_left _) (List.mem_append_left _) id And.intro
  rcases List.mem_append.mp hmem with hold | hnew
  · exact hold
  · exact absurd (List.mem_singleton.mp hnew).symm htask

/-- While the client is being closed the handlers do nothing. -/
theorem hearAll_of_stopping (hstopping : s.stopping = true) (before now : Bool)
    (news : List Tcp.Report) : s.hearAll before now news = s := by
  induction news with
  | nil => rfl
  | cons report rest ih =>
      have hsilent (connected : Bool) : s.hear connected report = s := by
        unfold hear
        rw [hstopping]
        rfl
      unfold hearAll at ih ⊢
      rw [List.foldl_cons]
      cases report <;> dsimp only <;> rw [hsilent] <;> exact ih

/-- A piece of work of the connection. -/
theorem SoundWith.transport {alive : Tcp.Client → Prop} (hsound : s.SoundWith alive)
    (hrunning : s.moduleRunning = true) {work : Tcp.Input}
    (hgenuine : ∀ client ∈ s.client, client.Genuine work)
    (halive : ∀ client ∈ s.client, alive client → s.Alive client ∨
      (Tcp.step client work).connected = true ∨ (Tcp.step client work).connecting = true) :
    (s.transport work).Sound := by
  obtain ⟨client, hclient⟩ := Option.isSome_iff_exists.mp (hsound.running hrunning)
  have hmem : client ∈ s.client := hclient
  have hturns := Tcp.Client.turns_step (hsound.session client hmem) work (hgenuine client hmem)
  have hsession := hturns.1
  cases hstopping : s.stopping with
  | true =>
      have hafter : s.transport work = { s with client := some (Tcp.step client work) } := by
        unfold CHUClient.transport
        rw [hclient]
        exact hearAll_of_stopping (s := { s with client := some (Tcp.step client work) }) hstopping
          _ _ _
      rw [hafter]
      refine ⟨hsound.shutting, ?_, fun _ => rfl, hsound.shutdown, fun _ hopen => ?_⟩
      · rintro other ⟨⟩
        exact hsession
      · cases hstopping.symm.trans hopen
  | false =>
      obtain ⟨hserves, hbefore⟩ := hsound.serves hrunning hstopping client hmem
      have hopen : s.Open :=
        ⟨hstopping, hsound.shutting.trans hstopping, hsound.running hrunning⟩
      obtain ⟨hafter, hsame, honward⟩ := transport_spec hserves hopen hclient hturns
      have hrest := hsame
      unfold rest at hrest
      simp only [Prod.mk.injEq] at hrest
      obtain ⟨-, -, -, -, hinitializing, htasks⟩ := hrest
      have hnext : (s.transport work).Alive (Tcp.step client work) := by
        rcases halive client hmem hbefore with hstays | hup | hbusy
        · exact hstays.transport hsession hafter.base (fun task hin => htasks ▸ hin) hinitializing
            honward
        · exact .inl ⟨hup, (hsession.connected hup).2⟩
        · exact .inr (.inl ⟨hbusy, hsession.pending.mpr hbusy⟩)
      exact hsound.of_serves hsession hsame hafter hnext

/-- The connection is found to be lost. -/
theorem SoundWith.lose {alive : Tcp.Client → Prop} (hsound : s.SoundWith alive)
    (hrunning : s.moduleRunning = true) (hstopping : s.stopping = false)
    (hdown : s.isConnected = false) :
    ((s.setConnectionStatus .lost).scheduleReconnect s.isConnected).Sound := by
  have hopen : s.Open := ⟨hstopping, hsound.shutting.trans hstopping, hsound.running hrunning⟩
  obtain ⟨client, hclient⟩ := Option.isSome_iff_exists.mp hopen.2.2
  obtain ⟨hserves, -⟩ := hsound.serves hrunning hstopping client hclient
  have hlost := lost_of_open hserves.base hopen hdown
  have hconnected : client.connected = false := by
    unfold isConnected at hdown
    rwa [hclient] at hdown
  have hrest := hlost.rest
  refine hsound.of_serves (hsound.session client hclient) ?_
    ⟨hlost.base, hlost.status_iff hconnected, hlost.received.trans hserves.handed⟩
    (.inr (.inr (.inr (.inr (.inr ⟨hlost.scheduled, hlost.base.armed hlost.scheduled⟩)))))
  rw [hrest, ← hclient]

/-- A connection is asked for, unless there is one. -/
theorem SoundWith.requestConnect {alive : Tcp.Client → Prop} (hsound : s.SoundWith alive)
    (hrunning : s.moduleRunning = true) (hstopping : s.stopping = false) (status : Status) :
    Sound ({ s with status := status }.requestConnect) := by
  obtain ⟨client, hclient⟩ := Option.isSome_iff_exists.mp (hsound.running hrunning)
  have hsession := hsound.session client hclient
  obtain ⟨hserves, -⟩ := hsound.serves hrunning hstopping client hclient
  have htold := hserves.base.told.trans hserves.status
  have hguard : (s.stopping || s.shuttingDown || s.client.isNone) = false := by
    rw [hsound.shutting, hstopping, hclient]
    rfl
  have hconnected : isConnected { s with status := status } = client.connected := by
    unfold isConnected
    dsimp only
    rw [hclient]
    rfl
  have hsame : s.rest = { s with client := some client }.rest := by rw [← hclient]
  unfold CHUClient.requestConnect
  dsimp only
  rw [hguard, hconnected, if_neg Bool.false_ne_true]
  cases hup : client.connected with
  | true =>
      rw [if_pos rfl]
      unfold setConnectionStatus
      split_ifs with hknown hheard
      · exact hsound.of_serves hsession hsame ⟨⟨iff_of_true (htold.mpr hup) hknown,
          fun htrue => by cases htrue⟩, iff_of_true hknown hup, hserves.handed⟩
          (.inl ⟨hup, (hsession.connected hup).2⟩)
      · exact hsound.of_serves hsession hsame ⟨⟨iff_of_true List.getLast?_concat rfl,
          fun htrue => by cases htrue⟩, iff_of_true rfl hup, hserves.handed⟩
          (.inl ⟨hup, (hsession.connected hup).2⟩)
      · exact absurd (Or.inl rfl) hheard
  | false =>
      rw [if_neg Bool.false_ne_true]
      have hasked : SoundWith (fun _ => True)
          { s with reconnectScheduled := false, status := .connecting } := by
        refine hsound.of_serves hsession hsame
          ⟨⟨?_, fun htrue => by cases htrue⟩, ?_, hserves.handed⟩ trivial
        · exact htold.trans (iff_of_false (ne_of_eq_of_ne hup Bool.false_ne_true)
            Status.noConfusion)
        · exact iff_of_false Status.noConfusion (ne_of_eq_of_ne hup Bool.false_ne_true)
      refine SoundWith.congr hasked (fun _ harmed => harmed) (fun hmem => ?_) fun _ _ _ _ =>
        .inr (.inr (.inl (List.mem_append_right _ List.mem_cons_self)))
      rcases List.mem_append.mp hmem with hold | hnew
      · exact hold
      · cases List.mem_singleton.mp hnew

/-- A task is taken that would not have brought a connection. -/
theorem Sound.take (hsound : s.Sound) {task : Task} {rest : List Task}
    (htasks : s.tasks = task :: rest) (hconnect : task ≠ .connect) (hstart : task ≠ .start) :
    Sound { s with tasks := rest } := by
  have hrest {other : Task} (hne : task ≠ other) (hmem : other ∈ s.tasks) : other ∈ rest := by
    rw [htasks] at hmem
    exact (List.mem_cons.mp hmem).resolve_left hne.symm
  exact SoundWith.congr hsound (fun _ harmed => harmed)
    (fun hmem => htasks ▸ List.mem_cons_of_mem _ hmem) fun _ _ _ halive =>
      halive.imp (hrest hconnect) (hrest hstart) id And.intro

/-- Whatever is asked of the socket, there is an attempt behind `connect`. -/
theorem connect_goes (client : Tcp.Client) : (Tcp.step client .connect).connected = true ∨
    (Tcp.step client .connect).connecting = true := by
  show client.connectOnIoThread.connected = true ∨ client.connectOnIoThread.connecting = true
  unfold Tcp.Client.connectOnIoThread
  split_ifs with hbusy
  · exact hbusy
  · exact .inr rfl

theorem Sound.runTask (hsound : s.Sound) (hrunning : s.moduleRunning = true) {task : Task}
    {rest : List Task} (htasks : s.tasks = task :: rest) (closeError : Bool) :
    (CHUClient.runTask { s with tasks := rest } closeError task).Sound := by
  have htaken : SoundWith (fun _ => True) { s with tasks := rest } :=
    SoundWith.congr hsound (fun _ harmed => harmed)
      (fun hmem => htasks ▸ List.mem_cons_of_mem _ hmem) fun _ _ _ _ => trivial
  cases task with
  | start =>
      show (if s.stopping || s.shuttingDown then _ else _ : CHUClient).Sound
      by_cases hclosing : (s.stopping || s.shuttingDown) = true
      · rw [if_pos hclosing]
        refine SoundWith.congr htaken (fun _ harmed => harmed) id fun hopen => ?_
        rw [hsound.shutting, Bool.or_self] at hclosing
        cases hclosing.symm.trans hopen
      · rw [if_neg hclosing]
        rw [hsound.shutting, Bool.or_self] at hclosing
        exact htaken.requestConnect hrunning (eq_false_of_ne_true hclosing) .connecting
  | message text =>
      have hsame := hsound.take htasks Task.noConfusion Task.noConfusion
      show (sendMessage _ text).Sound
      unfold sendMessage
      split_ifs with hclosing hnone hdown
      · exact hsame
      · exact hsame
      · rw [Bool.or_eq_true, not_or] at hclosing
        rw [Bool.not_eq_true'] at hdown
        exact htaken.lose hrunning (eq_false_of_ne_true hclosing.1) hdown
      · exact hsame.post Task.noConfusion
  | shutdown =>
      have hstopping : s.stopping = true :=
        (hsound.shutdown (htasks ▸ List.mem_cons_self)).2
      have hclose (u : CHUClient) (hu : u.SoundWith fun _ => True) (hclosing : u.stopping = true)
          (tasks : List Task) (hmore : .shutdown ∈ tasks → .shutdown ∈ u.tasks)
          (waits : List Bool) : Sound { u with
            reconnectScheduled := false, waits := waits, tasks := tasks, status := .empty } := by
        refine ⟨hu.shutting, hu.session, hu.running, fun hmem => hu.shutdown (hmore hmem),
          fun _ hopen => ?_⟩
        cases hclosing.symm.trans hopen
      show (CHUClient.shutdown _).Sound
      unfold CHUClient.shutdown
      dsimp only
      split_ifs
      · refine hclose _ htaken hstopping _ (fun hmem => ?_) _
        rcases List.mem_append.mp hmem with hold | hnew
        · exact hold
        · cases List.mem_singleton.mp hnew
      · exact hclose _ htaken hstopping _ id _
  | connect =>
      exact htaken.transport hrunning (fun _ _ => trivial) fun client _ _ =>
        .inr (connect_goes client)
  | send message =>
      exact SoundWith.transport (hsound.take htasks Task.noConfusion Task.noConfusion) hrunning
        (fun _ _ => trivial) fun _ _ halive => .inl halive
  | close =>
      exact SoundWith.transport (hsound.take htasks Task.noConfusion Task.noConfusion) hrunning
        (fun _ _ => trivial) fun _ _ halive => .inl halive

/-- The timer is set, unless there is a connection. -/
theorem SoundWith.schedule {alive : Tcp.Client → Prop} (hsound : s.SoundWith alive)
    (hrunning : s.moduleRunning = true) (hstopping : s.stopping = false)
    (hscheduled : s.reconnectScheduled = false) : (s.scheduleReconnect s.isConnected).Sound := by
  obtain ⟨client, hclient⟩ := Option.isSome_iff_exists.mp (hsound.running hrunning)
  have hsession := hsound.session client hclient
  have hguard : (s.stopping || s.shuttingDown || s.client.isNone || s.isConnected ||
      s.reconnectScheduled) = client.connected := by
    unfold isConnected
    rw [hsound.shutting, hstopping, hclient, hscheduled]
    simp
  unfold scheduleReconnect
  rw [hguard]
  split_ifs with hup
  · refine SoundWith.congr hsound (fun _ harmed => harmed) id
      fun _ other hmem _ => ?_
    cases hclient.symm.trans hmem
    exact .inl ⟨hup, (hsession.connected hup).2⟩
  · refine SoundWith.congr hsound
      (fun _ _ _ => List.mem_append_right _ List.mem_cons_self) id fun _ _ _ _ => ?_
    exact .inr (.inr (.inr (.inr (.inr ⟨rfl, List.mem_append_right _ List.mem_cons_self⟩))))

/-- A wait of the timer is over. -/
theorem Sound.timer (hsound : s.Sound) (hrunning : s.moduleRunning = true) {place : ℕ}
    {cancelled : Bool} (hplace : s.waits[place]? = some cancelled) {error : Tcp.Outcome}
    (hgenuine : ¬(error = .aborted ∧ cancelled = false)) :
    (handleReconnectTimerTimeout { s with waits := s.waits.eraseIdx place } error).Sound := by
  have hover : SoundWith (fun _ => True)
      { s with waits := s.waits.eraseIdx place, reconnectScheduled := false } :=
    SoundWith.congr hsound (fun _ _ htrue => by cases htrue) id
      fun _ _ _ _ => trivial
  unfold handleReconnectTimerTimeout
  by_cases hreturns : (error = .aborted || s.stopping || s.shuttingDown) = true
  · rw [if_pos hreturns]
    rw [hsound.shutting, Bool.or_assoc, Bool.or_self, Bool.or_eq_true, decide_eq_true_iff]
      at hreturns
    -- the wait that was set last has not been cancelled
    have hstays (hopen : s.stopping = false) (hmem : false ∈ s.waits) :
        false ∈ s.waits.eraseIdx place := by
      have haborted := hreturns.resolve_right (ne_of_eq_of_ne hopen Bool.false_ne_true)
      cases cancelled with
      | false => exact absurd ⟨haborted, rfl⟩ hgenuine
      | true => exact Tcp.Client.mem_eraseIdx_of_ne hplace hmem Bool.false_ne_true
    refine SoundWith.congr hsound
      (fun hopen harmed hscheduled => hstays hopen (harmed hscheduled)) id
        fun hopen _ _ halive =>
        halive.imp id id id fun hscheduled hmem => ⟨hscheduled, hstays hopen hmem⟩
  · rw [if_neg hreturns]
    rw [Bool.or_eq_true, Bool.or_eq_true, not_or, not_or] at hreturns
    have hstopping : s.stopping = false := eq_false_of_ne_true hreturns.1.2
    dsimp only
    split_ifs
    · exact hover.schedule hrunning hstopping rfl
    · exact hover.requestConnect hrunning hstopping s.status

theorem Sound.work (hsound : s.Sound) (hrunning : s.moduleRunning = true) (input : Input) :
    (s.work input).Sound := by
  cases input with
  | run closeError =>
      simp only [CHUClient.work]
      split
      next => exact hsound
      next htasks => exact hsound.runTask hrunning htasks closeError
  | timer place error =>
      simp only [CHUClient.work]
      split
      next => exact hsound
      next hplace =>
        split_ifs with hkept
        · exact hsound
        · exact hsound.timer hrunning hplace hkept
  | socket work =>
      simp only [CHUClient.work]
      split_ifs with hsocket
      · exact SoundWith.transport hsound hrunning hsocket.2 fun _ _ halive => .inl halive
      · exact hsound
  | _ => exact hsound

/-- Nothing is said of a client that does not serve. -/
theorem sound_of_down (hshutting : s.shuttingDown = s.stopping)
    (hsession : ∀ client ∈ s.client, client.Session)
    (hrunning : s.moduleRunning = true → s.client.isSome = true)
    (hshutdown : .shutdown ∈ s.tasks → s.moduleRunning = true ∧ s.stopping = true)
    (hdown : s.moduleRunning = true → s.stopping = true) : s.Sound := by
  refine ⟨hshutting, hsession, hrunning, hshutdown, fun hup hopen => ?_⟩
  cases (hdown hup).symm.trans hopen

theorem Sound.init (hsound : s.Sound) (created started : Bool) :
    (s.init created started).Sound := by
  unfold CHUClient.init
  by_cases hrunning : s.moduleRunning = true
  · rw [if_pos hrunning]
    exact hsound
  rw [if_neg hrunning]
  have hnone : .shutdown ∉ s.tasks := fun hmem => hrunning (hsound.shutdown hmem).1
  cases created with
  | false =>
      exact sound_of_down hsound.shutting hsound.session hsound.running hsound.shutdown
        fun hup => absurd hup hrunning
  | true =>
      cases started with
      | false =>
          exact sound_of_down rfl (fun _ hmem => by cases hmem) (fun hup => absurd hup hrunning)
            (fun hmem => absurd hmem hnone) fun _ => rfl
      | true =>
          refine ⟨rfl, ?_, fun _ => rfl, fun hmem => absurd hmem hnone, ?_⟩
          · rintro client ⟨⟩
            exact Tcp.Client.session_init
          · rintro - - client ⟨⟩
            refine ⟨⟨⟨?_, fun htrue => by cases htrue⟩, ?_, rfl⟩,
              .inr (.inr (.inr (.inr (.inl rfl))))⟩
            · exact iff_of_false (fun hsome => by cases hsome) Status.noConfusion
            · exact iff_of_false Status.noConfusion Bool.false_ne_true

theorem Sound.close (hsound : s.Sound) : s.close.Sound := by
  unfold CHUClient.close
  dsimp only
  cases hrunning : s.moduleRunning with
  | false =>
      have hdown : s.moduleRunning ≠ true := ne_of_eq_of_ne hrunning Bool.false_ne_true
      rw [if_pos Bool.not_false]
      exact sound_of_down rfl (fun _ hmem => by cases hmem) (fun hup => by cases hup)
        (fun hmem => absurd (hsound.shutdown hmem).1 hdown) fun hup => by cases hup
  | true =>
      rw [if_neg (ne_of_eq_of_ne Bool.not_true Bool.false_ne_true)]
      exact sound_of_down rfl hsound.session (fun _ => hsound.running hrunning)
        (fun _ => ⟨rfl, rfl⟩) fun _ => rfl

theorem Sound.joined (hidle : s.idle = true) : s.joined.Sound := by
  unfold idle at hidle
  rw [Bool.and_eq_true, Bool.and_eq_true, List.isEmpty_iff] at hidle
  refine sound_of_down rfl (fun _ hmem => by cases hmem) (fun hup => by cases hup)
    (fun hmem => ?_) fun hup => by cases hup
  rw [show s.joined.tasks = s.tasks from rfl, hidle.1.1] at hmem
  exact absurd hmem List.not_mem_nil

/-- Whatever happens keeps the client sound. -/
theorem sound_step (hsound : s.Sound) (input : Input) : (s.step input).Sound := by
  have hworks : (if s.moduleRunning then s.work input else s).Sound := by
    split_ifs with hrunning
    · exact hsound.work hrunning input
    · exact hsound
  cases input with
  | init created started =>
      simp only [CHUClient.step]
      split_ifs
      · exact hsound
      · exact hsound.init created started
  | initialized =>
      simp only [CHUClient.step]
      split_ifs
      · refine SoundWith.congr (s := s) hsound (fun _ harmed => harmed)
          (fun hmem => ?_) fun _ client _ halive => ?_
        · rcases List.mem_append.mp hmem with hold | hnew
          · exact hold
          · cases List.mem_singleton.mp hnew
        · exact .inr (.inr (.inr (.inl (List.mem_append_right _ List.mem_cons_self))))
      · exact hsound
  | message text =>
      simp only [CHUClient.step]
      split_ifs
      · exact hsound
      · exact hsound.post Task.noConfusion
  | close =>
      simp only [CHUClient.step]
      split_ifs
      · exact hsound
      · exact hsound.close
  | joined =>
      simp only [CHUClient.step]
      split_ifs with hguard
      · rw [Bool.and_eq_true] at hguard
        exact Sound.joined hguard.2
      · exact hsound
  | run | timer | socket => exact hworks

theorem sound_init : Sound {} :=
  sound_of_down rfl (fun _ hmem => by cases hmem) (fun hup => by cases hup)
    (fun hmem => absurd hmem List.not_mem_nil) fun hup => by cases hup

/-- A client that serves has a connection the station knows of, or is about to get one. -/
theorem link_run (inputs : List Input) (hserving : (run step {} inputs).Serving) :
    ∃ client, (run step {} inputs).client = some client ∧
      (run step {} inputs).Linked client := by
  have hsound : (run step {} inputs).Sound :=
    @run_keeps _ _ step Sound (fun _ input hbefore => sound_step hbefore input) {} sound_init inputs
  obtain ⟨hrunning, hstopping⟩ := hserving
  obtain ⟨client, hclient⟩ := Option.isSome_iff_exists.mp (hsound.running hrunning)
  obtain ⟨hserves, halive⟩ := hsound.serves hrunning hstopping client hclient
  exact ⟨client, hclient, hserves.base.told.trans hserves.status, hserves.handed, halive⟩

/-- The first connection fails, the second one is lost. -/
def lostConnection : List Input :=
  [.init true true, .initialized, .run false, .run false, .socket (.onConnect 0 .failed),
    .timer 0 .ok, .run false, .socket (.onConnect 0 .ok), .socket (.onRead 0 .ok [65]),
    .socket (.onRead 0 .failed [])]

theorem link_run_lost : ∃ client, (run step {} lostConnection).client = some client ∧
    (run step {} lostConnection).Linked client :=
  link_run lostConnection ⟨by decide +kernel, by decide +kernel⟩

end CHUClient

end LinuxPBS.Chu

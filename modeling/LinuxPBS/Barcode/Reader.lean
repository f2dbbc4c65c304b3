import LinuxPBS.Barcode.Keyboard
import LinuxPBS.Library.Machine

/-!
# The barcode reader

`BARCODE_READER` has one thread with a coroutine that opens the scanner, waits for events,
reads them and tries again after five seconds when the scanner is not there.  Other threads
start and stop the reading: `readRequested_` changes at once, the rest is posted.

```text
          start handler        opened               events
(none) ----------------> spawned ----> device <----------------+
   ^                        |            |  \__________________|
   |  not requested, or     | no device  | lost
   +--------------------- reconnect <----+
       wait cancelled        |  ^ no device
                             +--+
```

An input of `step` is a call from outside, the next posted handler, or the coroutine going on
until it waits again.  When the coroutine returns, its completion handler is dispatched on the
same thread, in the same step.

Two facts about whole runs: what is reported is what was typed on each connection of the
scanner, taken by itself (`reported_run`); and the reading dies when a wait for the scanner is
cancelled by a stop that a new start has already overtaken (`reading_run`).
-/

namespace LinuxPBS.Barcode

open Machine

/-! ## Reading the device -/

/-- `libevdev_next_event` -/
inductive Rc
  | success (ev : InputEvent)
  | sync (ev : InputEvent)
  /-- `-EAGAIN` -/
  | again
  /-- `-ENODEV` -/
  | nodev
  /-- another error -/
  | failed
  deriving DecidableEq, Repr

inductive DeviceReadResult
  | ready
  | disconnected
  | error
  deriving DecidableEq, Repr

/-- The loops of `drainAvailableEvents`, the inner one if `syncing`: the events they process
and how they end. -/
def drain : Bool → List Rc → List InputEvent × DeviceReadResult
  | _, [] => ([], .ready)
  | false, .success ev :: rest => (ev :: (drain false rest).1, (drain false rest).2)
  | false, .sync ev :: rest => (ev :: (drain true rest).1, (drain true rest).2)
  | true, .sync ev :: rest => (ev :: (drain true rest).1, (drain true rest).2)
  -- only the sync events of the inner loop are processed
  | true, .success _ :: rest => drain true rest
  | false, .again :: _ => ([], .ready)
  | true, .again :: rest => drain false rest
  | _, .nodev :: _ => ([], .disconnected)
  | _, .failed :: _ => ([], .error)

/-! ## The module -/

inductive Posted
  | start
  | stop
  | shutdown
  deriving DecidableEq, Repr

/-- Where `monitoringLoopAsync` is. -/
inductive Coroutine
  | none
  /-- spawned, and not run yet -/
  | spawned
  /-- waits for events -/
  | device
  /-- waits for the time of the next attempt -/
  | reconnect
  deriving DecidableEq, Repr

/-- How a wait ends. -/
inductive WaitEnd
  | completed
  | aborted
  | failed
  deriving DecidableEq, Repr

/-- `BARCODE_READER` -/
structure Reader where
  moduleRunning : Bool := false
  stopping : Bool := false
  readRequested : Bool := false
  monitoringLoopRunning : Bool := false
  deviceConnected : Bool := false
  ticketIn : ℤ := 0
  keys : Keys := {}
  posted : List Posted := []
  coroutine : Coroutine := .none
  /-- the wait of the coroutine has been cancelled -/
  cancelled : Bool := false
  /-- `FnBarcodeReaderShutdown` waits for the thread -/
  closing : Bool := false
  /-- the `Evt_handleBarcodeReceived` events -/
  barcodes : List (List Char) := []
  /-- the events of each connection of the scanner so far -/
  connections : List (List InputEvent) := []
  deriving DecidableEq, Repr

/-- `closeDeviceOnIoThread` -/
def closeDevice (reader : Reader) : Reader := { reader with deviceConnected := false, keys := {} }

/-- The rest of `monitoringLoopAsync` behind its loop. -/
def finish (reader : Reader) : Reader :=
  { closeDevice reader with
    monitoringLoopRunning := false, coroutine := .none, cancelled := false }

/-- The coroutine waits for events, or for the next attempt. -/
def await (reader : Reader) (wait : Coroutine) : Reader :=
  { reader with coroutine := wait, cancelled := false }

def going (reader : Reader) : Bool := reader.readRequested && !reader.stopping

/-- The head of the loop up to the next wait; `opened` is what `openDeviceOnIoThread` comes
to. -/
def loopHead (reader : Reader) (opened : Bool) : Reader :=
  if !going reader then finish reader
  else if reader.deviceConnected then await reader .device
  else if opened then
    await { closeDevice reader with
      deviceConnected := true, connections := reader.connections ++ [[]] } .device
  else await (closeDevice reader) .reconnect

/-- The events are part of the last connection. -/
def addEvents (events : List InputEvent) : List (List InputEvent) → List (List InputEvent)
  | [] => []
  | [last] => [last ++ events]
  | first :: rest => first :: addEvents events rest

/-- `processInputEvent` for some events. -/
def processInputEvents (reader : Reader) (events : List InputEvent) : Reader :=
  { reader with
    keys := (received reader.keys events).1
    barcodes := reader.barcodes ++ (received reader.keys events).2
    ticketIn := if (received reader.keys events).2 = [] then reader.ticketIn else 1
    connections := addEvents events reader.connections }

/-- The loop after the wait for events. -/
def afterDeviceWait (reader : Reader) (wait : WaitEnd) (rcs : List Rc) (opened : Bool) : Reader :=
  if !going reader then finish reader
  else match wait with
    | .aborted => loopHead reader opened
    | .failed => await (closeDevice reader) .reconnect
    | .completed =>
        if !reader.deviceConnected then await (closeDevice reader) .reconnect
        else
          let read := processInputEvents reader (drain false rcs).1
          if (drain false rcs).2 = .ready then loopHead read opened
          else await (closeDevice read) .reconnect

/-- The loop after `waitForReconnectAsync`. -/
def afterReconnectWait (reader : Reader) (wait : WaitEnd) (opened : Bool) : Reader :=
  if !going reader then finish reader
  else if wait = .completed then loopHead reader opened
  else finish reader

inductive Input
  /-- `FnBarcodeReaderInit` -/
  | init
  | startRead
  | stopRead
  | shutdown
  /-- the thread has ended, and `FnBarcodeReaderShutdown` returns -/
  | joined
  /-- the thread takes the next posted handler -/
  | handler
  /-- the coroutine runs for the first time -/
  | begun (opened : Bool)
  | deviceWait (wait : WaitEnd) (rcs : List Rc) (opened : Bool)
  | reconnectWait (wait : WaitEnd) (opened : Bool)
  deriving DecidableEq, Repr

/-- The posted handlers. -/
def handle (reader : Reader) : Posted → Reader
  | .start =>
      if reader.stopping then { reader with readRequested := false }
      else if reader.monitoringLoopRunning then reader
      else { reader with monitoringLoopRunning := true, coroutine := .spawned }
  | .stop => { reader with cancelled := true }
  | .shutdown => { closeDevice reader with readRequested := false, cancelled := true }

/-- One call, one handler, or one run of the coroutine. -/
def step (reader : Reader) : Input → Reader
  | .init =>
      if reader.moduleRunning ∨ reader.closing then reader
      else
        { reader with
          moduleRunning := true, stopping := false, readRequested := false, ticketIn := 0 }
  | .startRead =>
      if !reader.moduleRunning ∨ reader.stopping ∨ reader.readRequested then reader
      else { reader with readRequested := true, posted := reader.posted ++ [.start] }
  | .stopRead =>
      if !reader.moduleRunning then { reader with readRequested := false }
      else { reader with readRequested := false, posted := reader.posted ++ [.stop] }
  | .shutdown =>
      if reader.closing then reader
      else if !reader.moduleRunning then
        { reader with stopping := false, readRequested := false, monitoringLoopRunning := false }
      else
        { reader with
          moduleRunning := false, stopping := true, readRequested := false
          posted := reader.posted ++ [.shutdown], closing := true }
  | .joined =>
      -- `run()` returns when neither handlers nor the coroutine are left
      if reader.closing ∧ reader.posted = [] ∧ reader.coroutine = .none then
        { reader with
          stopping := false, readRequested := false, monitoringLoopRunning := false
          closing := false }
      else reader
  | .handler =>
      match reader.posted with
      | [] => reader
      | first :: rest => handle { reader with posted := rest } first
  | .begun opened => if reader.coroutine = .spawned then loopHead reader opened else reader
  | .deviceWait wait rcs opened =>
      if reader.coroutine = .device ∧ (wait = .aborted → reader.cancelled) then
        afterDeviceWait reader wait rcs opened
      else reader
  | .reconnectWait wait opened =>
      if reader.coroutine = .reconnect ∧ (wait = .aborted → reader.cancelled) then
        afterReconnectWait reader wait opened
      else reader

variable {reader other : Reader}

/-! ## Every barcode is from one connection -/

/-- The barcodes typed on a connection. -/
def typed (events : List InputEvent) : List (List Char) := (received {} events).2

/-- What has been reported is what was typed on the connections, one after the other, and the
keyboard is that of the last one. -/
structure Separate (reader : Reader) : Prop where
  barcodes : reader.barcodes = reader.connections.flatMap typed
  keys : reader.deviceConnected = true →
    ∃ before last, reader.connections = before ++ [last] ∧ reader.keys = (received {} last).1

theorem addEvents_concat (events : List InputEvent) (before : List (List InputEvent))
    (last : List InputEvent) :
    addEvents events (before ++ [last]) = before ++ [last ++ events] := by
  induction before with
  | nil => rfl
  | cons first rest ih =>
      cases rest with
      | nil => rfl
      | cons second rest => exact congrArg (first :: ·) ih

theorem Separate.close (hseparate : Separate reader) :
    Separate (closeDevice reader) :=
  ⟨hseparate.barcodes, fun hon => Bool.noConfusion hon⟩

theorem Separate.await (hseparate : Separate reader) (wait : Coroutine) :
    Separate (await reader wait) :=
  ⟨hseparate.barcodes, hseparate.keys⟩

theorem Separate.finish (hseparate : Separate reader) :
    Separate (finish reader) :=
  ⟨hseparate.barcodes, fun hon => Bool.noConfusion hon⟩

theorem Separate.loopHead (hseparate : Separate reader) (opened : Bool) :
    Separate (loopHead reader opened) := by
  unfold Barcode.loopHead
  split
  · exact hseparate.finish
  · split
    · exact hseparate.await _
    · split
      · apply Separate.await
        constructor
        · rw [List.flatMap_append, List.flatMap_singleton, ← hseparate.barcodes]
          exact (List.append_nil _).symm
        · intro _
          exact ⟨reader.connections, [], rfl, rfl⟩
      · exact hseparate.close.await _

/-- The events read belong to the connection that is open. -/
theorem Separate.processInputEvents (hseparate : Separate reader)
    (hconnected : reader.deviceConnected = true) (events : List InputEvent) :
    Separate (processInputEvents reader events) := by
  obtain ⟨before, last, hconnections, hkeys⟩ := hseparate.keys hconnected
  have hadded : addEvents events reader.connections = before ++ [last ++ events] := by
    rw [hconnections, addEvents_concat]
  constructor
  · calc reader.barcodes ++ (received reader.keys events).2
        = before.flatMap typed ++ (typed last ++ (received reader.keys events).2) := by
          rw [hseparate.barcodes, hconnections, List.flatMap_append, List.flatMap_singleton,
            List.append_assoc]
      _ = before.flatMap typed ++ typed (last ++ events) := by
          rw [hkeys, typed, typed, received_append]
      _ = (addEvents events reader.connections).flatMap typed := by
          rw [hadded, List.flatMap_append, List.flatMap_singleton]
  · intro _
    refine ⟨before, last ++ events, hadded, ?_⟩
    rw [received_append, ← hkeys]
    rfl

theorem Separate.afterDeviceWait (hseparate : Separate reader)
    (wait : WaitEnd) (rcs : List Rc) (opened : Bool) :
    Separate (afterDeviceWait reader wait rcs opened) := by
  unfold Barcode.afterDeviceWait
  split
  · exact hseparate.finish
  · cases wait with
    | aborted => exact hseparate.loopHead opened
    | failed => exact hseparate.close.await _
    | completed =>
        dsimp only
        split
        · exact hseparate.close.await _
        · rename_i hconnected
          have hread := hseparate.processInputEvents (by simpa using hconnected) (drain false rcs).1
          split
          · exact hread.loopHead opened
          · exact hread.close.await _

/-- What has been typed is the same. -/
theorem Separate.congr (hseparate : Separate reader)
    (hsame : (other.barcodes, other.connections, other.deviceConnected, other.keys) =
      (reader.barcodes, reader.connections, reader.deviceConnected, reader.keys)) :
    Separate other := by
  simp only [Prod.mk.injEq] at hsame
  obtain ⟨hbarcodes, hconnections, hconnected, hkeys⟩ := hsame
  constructor
  · rw [hbarcodes, hconnections]
    exact hseparate.barcodes
  · rw [hconnections, hconnected, hkeys]
    exact hseparate.keys

theorem Separate.step (hseparate : Separate reader) (input : Input) :
    Separate (step reader input) := by
  cases input with
  | init => unfold Barcode.step; dsimp only; split <;> exact hseparate.congr rfl
  | startRead => unfold Barcode.step; dsimp only; split <;> exact hseparate.congr rfl
  | stopRead => unfold Barcode.step; dsimp only; split <;> exact hseparate.congr rfl
  | shutdown =>
      unfold Barcode.step
      dsimp only
      split
      · exact hseparate
      · split <;> exact hseparate.congr rfl
  | joined => unfold Barcode.step; dsimp only; split <;> exact hseparate.congr rfl
  | handler =>
      unfold Barcode.step
      dsimp only
      split
      · exact hseparate
      · rename_i first rest hposted
        cases first with
        | start =>
            unfold handle
            dsimp only
            split
            · exact hseparate.congr rfl
            · split <;> exact hseparate.congr rfl
        | stop => exact hseparate.congr rfl
        | shutdown => exact ⟨hseparate.barcodes, fun hon => Bool.noConfusion hon⟩
  | begun opened =>
      unfold Barcode.step
      dsimp only
      split
      · exact hseparate.loopHead opened
      · exact hseparate
  | deviceWait wait rcs opened =>
      unfold Barcode.step
      dsimp only
      split
      · exact hseparate.afterDeviceWait wait rcs opened
      · exact hseparate
  | reconnectWait wait opened =>
      unfold Barcode.step
      dsimp only
      split
      · unfold afterReconnectWait
        split
        · exact hseparate.finish
        · split
          · exact hseparate.loopHead opened
          · exact hseparate.finish
      · exact hseparate

/-- In every run, through all starts, stops, losses of the scanner and shutdowns: the barcodes
reported are those typed on the connections of the scanner, each taken by itself, in the order
of the connections.  So no barcode is made of keys from before and after a reconnection, none
is lost between two Enters of one connection, and no Shift key stays down. -/
theorem reported_run (inputs : List Input) :
    (run step {} inputs).barcodes = (run step {} inputs).connections.flatMap typed := by
  have hstart : Separate ({} : Reader) := ⟨rfl, fun hon => Bool.noConfusion hon⟩
  exact (run_keeps (fun _ input hseparate => hseparate.step input) hstart inputs).barcodes

/-! ## A reading that dies -/

/-- A reading that is requested has a coroutine, or one is going to be started. -/
def Alive (reader : Reader) : Prop :=
  reader.readRequested = true → reader.coroutine ≠ .none ∨ Posted.start ∈ reader.posted

/-- What the flags say about the coroutine. -/
structure Tracked (reader : Reader) : Prop where
  running : reader.monitoringLoopRunning = true ↔ reader.coroutine ≠ .none
  stopping : reader.stopping = true → reader.readRequested = false
  requested : reader.readRequested = true → reader.moduleRunning = true
  resting : reader.moduleRunning = false → reader.closing = false →
    reader.coroutine = .none ∧ reader.posted = []
  closing : reader.moduleRunning = true → reader.closing = false
  shutdown : reader.closing = false → Posted.shutdown ∉ reader.posted

/-- The wait for the scanner does not end early while a reading is requested whose start has
been handled already. -/
def NotOvertaken (reader : Reader) : Input → Prop
  | .reconnectWait wait _ =>
      wait ≠ .completed → reader.readRequested = true → Posted.start ∈ reader.posted
  | _ => True

/-- What a run of the coroutine leaves as it is, and the two ways it can end. -/
structure Ran (reader other : Reader) : Prop where
  posted : other.posted = reader.posted
  requested : other.readRequested = reader.readRequested
  stopping : other.stopping = reader.stopping
  moduleRunning : other.moduleRunning = reader.moduleRunning
  closing : other.closing = reader.closing
  waits : other.monitoringLoopRunning = reader.monitoringLoopRunning ∧ other.coroutine ≠ .none ∨
    other.monitoringLoopRunning = false ∧ other.coroutine = .none

theorem ran_finish (reader : Reader) : Ran reader (finish reader) :=
  ⟨rfl, rfl, rfl, rfl, rfl, .inr ⟨rfl, rfl⟩⟩

theorem ran_loopHead (reader : Reader) (opened : Bool) : Ran reader (loopHead reader opened) := by
  have hdevice : Coroutine.device ≠ .none := by decide
  have hreconnect : Coroutine.reconnect ≠ .none := by decide
  unfold loopHead
  split
  · exact ran_finish reader
  · split
    · exact ⟨rfl, rfl, rfl, rfl, rfl, .inl ⟨rfl, hdevice⟩⟩
    · split
      · exact ⟨rfl, rfl, rfl, rfl, rfl, .inl ⟨rfl, hdevice⟩⟩
      · exact ⟨rfl, rfl, rfl, rfl, rfl, .inl ⟨rfl, hreconnect⟩⟩

theorem ran_afterDeviceWait (reader : Reader) (wait : WaitEnd) (rcs : List Rc) (opened : Bool) :
    Ran reader (afterDeviceWait reader wait rcs opened) := by
  have hreconnect : Coroutine.reconnect ≠ .none := by decide
  unfold afterDeviceWait
  split
  · exact ran_finish reader
  · cases wait with
    | aborted => exact ran_loopHead reader opened
    | failed => exact ⟨rfl, rfl, rfl, rfl, rfl, .inl ⟨rfl, hreconnect⟩⟩
    | completed =>
        dsimp only
        split
        · exact ⟨rfl, rfl, rfl, rfl, rfl, .inl ⟨rfl, hreconnect⟩⟩
        · split
          · have hran := ran_loopHead (processInputEvents reader (drain false rcs).1) opened
            exact ⟨hran.posted, hran.requested, hran.stopping, hran.moduleRunning, hran.closing,
              hran.waits⟩
          · exact ⟨rfl, rfl, rfl, rfl, rfl, .inl ⟨rfl, hreconnect⟩⟩

theorem ran_afterReconnectWait (reader : Reader) (wait : WaitEnd) (opened : Bool) :
    Ran reader (afterReconnectWait reader wait opened) := by
  unfold afterReconnectWait
  split
  · exact ran_finish reader
  · split
    · exact ran_loopHead reader opened
    · exact ran_finish reader

/-- The coroutine goes on. -/
def resumes : Input → Bool
  | .begun _ | .deviceWait _ _ _ | .reconnectWait _ _ => true
  | _ => false

/-- It goes on only if it is there. -/
theorem ran_step {input : Input} (hresumes : resumes input = true) :
    step reader input = reader ∨ reader.coroutine ≠ .none ∧ Ran reader (step reader input) := by
  have hthere {wait : Coroutine} (hwait : reader.coroutine = wait) (hne : wait ≠ .none) :
      reader.coroutine ≠ .none := hwait ▸ hne
  cases input with
  | begun opened =>
      unfold step
      dsimp only
      split_ifs with hbegun
      · exact .inr ⟨hthere hbegun (by decide), ran_loopHead reader opened⟩
      · exact .inl rfl
  | deviceWait wait rcs opened =>
      unfold step
      dsimp only
      split_ifs with hwait
      · exact .inr ⟨hthere hwait.1 (by decide), ran_afterDeviceWait reader wait rcs opened⟩
      · exact .inl rfl
  | reconnectWait wait opened =>
      unfold step
      dsimp only
      split_ifs with hwait
      · exact .inr ⟨hthere hwait.1 (by decide), ran_afterReconnectWait reader wait opened⟩
      · exact .inl rfl
  | _ => cases hresumes

/-- The head of the loop is the end only if nothing is requested any more. -/
theorem going_of_loopHead {opened : Bool}
    (hended : (loopHead reader opened).coroutine = .none) : going reader = false := by
  unfold loopHead at hended
  split at hended
  · rename_i hgoing
    simpa using hgoing
  · split at hended
    · exact Coroutine.noConfusion hended
    · split at hended <;> exact Coroutine.noConfusion hended

theorem going_of_afterDeviceWait {wait : WaitEnd} {rcs : List Rc}
    {opened : Bool} (hended : (afterDeviceWait reader wait rcs opened).coroutine = .none) :
    going reader = false := by
  unfold afterDeviceWait at hended
  split at hended
  · rename_i hgoing
    simpa using hgoing
  · cases wait with
    | aborted => exact going_of_loopHead hended
    | failed => exact Coroutine.noConfusion hended
    | completed =>
        dsimp only at hended
        split at hended
        · exact Coroutine.noConfusion hended
        · split at hended
          · have hgoing := going_of_loopHead hended
            exact hgoing
          · exact Coroutine.noConfusion hended

theorem Tracked.of_ran (htracked : Tracked reader)
    (hran : Ran reader other) (hthere : reader.coroutine ≠ .none) : Tracked other where
  running := by
    have hrunning := htracked.running.mpr hthere
    rcases hran.waits with ⟨hsame, hwaits⟩ | ⟨hoff, hnone⟩
    · exact iff_of_true (hsame.trans hrunning) hwaits
    · rw [hoff, hnone]
      exact iff_of_false Bool.false_ne_true (not_not.mpr rfl)
  stopping := by
    rw [hran.stopping, hran.requested]
    exact htracked.stopping
  requested := by
    rw [hran.requested, hran.moduleRunning]
    exact htracked.requested
  resting := by
    rw [hran.moduleRunning, hran.closing]
    intro hoff hopen
    exact absurd (htracked.resting hoff hopen).1 hthere
  closing := by
    rw [hran.moduleRunning, hran.closing]
    exact htracked.closing
  shutdown := by
    rw [hran.closing, hran.posted]
    exact htracked.shutdown

/-- Nothing is requested where the loop ends because of the flags. -/
theorem Tracked.not_requested (htracked : Tracked reader)
    (hgoing : going reader = false) : reader.readRequested = false := by
  rcases Bool.and_eq_false_iff.mp hgoing with hoff | hstopping
  · exact hoff
  · exact htracked.stopping (by simpa using hstopping)

/-- After a run of the coroutine that ended because of the flags, or did not end. -/
theorem alive_of_ran (htracked : Tracked reader)
    (hran : Ran reader other) (hended : other.coroutine = .none → going reader = false) :
    Alive other := by
  intro hrequested
  refine .inl fun hnone => ?_
  have hoff := htracked.not_requested (hended hnone)
  exact absurd (hoff.symm.trans (hran.requested.symm.trans hrequested)) Bool.false_ne_true

theorem tracked_handle {first : Posted} {rest : List Posted}
    (htracked : Tracked reader) (hposted : reader.posted = first :: rest) :
    Tracked (handle { reader with posted := rest } first) := by
  have hbusy : reader.moduleRunning = false → reader.closing = false → False := by
    intro hoff hopen
    exact absurd (hposted.symm.trans (htracked.resting hoff hopen).2) (List.cons_ne_nil _ _)
  have hrest : reader.closing = false → Posted.shutdown ∉ rest := fun hopen hmem =>
    htracked.shutdown hopen (hposted ▸ List.mem_cons_of_mem _ hmem)
  have hnever : ∀ {other : Reader}, other.readRequested = false →
      other.readRequested = true → other.moduleRunning = true :=
    fun hoff hon => absurd (hoff.symm.trans hon) Bool.false_ne_true
  have htaken : Tracked { reader with posted := rest } :=
    ⟨htracked.running, htracked.stopping, htracked.requested,
      fun hoff hopen => (hbusy hoff hopen).elim, htracked.closing, hrest⟩
  cases first with
  | start =>
      unfold handle
      dsimp only
      split
      · exact ⟨htaken.running, fun _ => rfl, hnever rfl, htaken.resting, htaken.closing, hrest⟩
      · split
        · exact htaken
        · exact ⟨iff_of_true rfl fun hnone => Coroutine.noConfusion hnone, htaken.stopping,
            htaken.requested, fun hoff hopen => (hbusy hoff hopen).elim, htaken.closing, hrest⟩
  | stop =>
      exact ⟨htaken.running, htaken.stopping, htaken.requested, htaken.resting, htaken.closing,
        hrest⟩
  | shutdown =>
      exact ⟨htaken.running, fun _ => rfl, hnever rfl, htaken.resting, htaken.closing, hrest⟩

theorem Tracked.step (htracked : Tracked reader) (input : Input) :
    Tracked (step reader input) := by
  have hresumes (hresumes : resumes input = true) : Tracked (Barcode.step reader input) := by
    rcases ran_step hresumes with hsame | ⟨hthere, hran⟩
    · exact hsame.symm ▸ htracked
    · exact htracked.of_ran hran hthere
  have hnever : ∀ {other : Reader}, other.readRequested = false →
      other.readRequested = true → other.moduleRunning = true :=
    fun hoff hon => absurd (hoff.symm.trans hon) Bool.false_ne_true
  have hconcat : ∀ last, last ≠ Posted.shutdown → reader.closing = false →
      Posted.shutdown ∉ reader.posted ++ [last] := by
    intro last hlast hopen hmem
    rcases List.mem_append.mp hmem with hmem | hmem
    · exact htracked.shutdown hopen hmem
    · exact hlast (List.mem_singleton.mp hmem).symm
  cases input with
  | init =>
      unfold Barcode.step
      dsimp only
      split
      · exact htracked
      · rename_i hready
        rw [not_or] at hready
        have hopen := eq_false_of_ne_true hready.2
        exact ⟨htracked.running, fun _ => rfl, hnever rfl, fun hoff => Bool.noConfusion hoff,
          fun _ => hopen, htracked.shutdown⟩
  | startRead =>
      unfold Barcode.step
      dsimp only
      split
      · exact htracked
      · rename_i hready
        rw [not_or, not_or] at hready
        have hon : reader.moduleRunning = true := by simpa using hready.1
        exact ⟨htracked.running, fun hstopping => absurd hstopping hready.2.1, fun _ => hon,
          fun hoff => absurd (hoff.symm.trans hon) Bool.false_ne_true, htracked.closing,
          hconcat .start (by decide)⟩
  | stopRead =>
      unfold Barcode.step
      dsimp only
      split
      · exact ⟨htracked.running, fun _ => rfl, hnever rfl, htracked.resting, htracked.closing,
          htracked.shutdown⟩
      · rename_i hready
        have hon : reader.moduleRunning = true := by simpa using hready
        exact ⟨htracked.running, fun _ => rfl, hnever rfl,
          fun hoff => absurd (hoff.symm.trans hon) Bool.false_ne_true, htracked.closing,
          hconcat .stop (by decide)⟩
  | shutdown =>
      unfold Barcode.step
      dsimp only
      split
      · exact htracked
      · rename_i hopen
        have hopen := eq_false_of_ne_true hopen
        split
        · rename_i hready
          have hrest := htracked.resting (by simpa using hready) hopen
          exact ⟨iff_of_false Bool.false_ne_true (not_not.mpr hrest.1), fun _ => rfl, hnever rfl,
            htracked.resting, htracked.closing, htracked.shutdown⟩
        · exact ⟨htracked.running, fun _ => rfl, hnever rfl,
            fun _ hopen => Bool.noConfusion hopen, fun hon => Bool.noConfusion hon,
            fun hopen => Bool.noConfusion hopen⟩
  | joined =>
      unfold Barcode.step
      dsimp only
      split
      · rename_i hended
        exact ⟨iff_of_false Bool.false_ne_true (not_not.mpr hended.2.2), fun _ => rfl, hnever rfl,
          fun _ _ => ⟨hended.2.2, hended.2.1⟩, fun _ => rfl,
          fun _ hmem => List.not_mem_nil (hended.2.1 ▸ hmem)⟩
      · exact htracked
  | handler =>
      unfold Barcode.step
      dsimp only
      split
      · exact htracked
      · exact tracked_handle htracked ‹_›
  | begun | deviceWait | reconnectWait => exact hresumes rfl

theorem tracked_run (inputs : List Input) : Tracked (run step {} inputs) := by
  have hstart : Tracked ({} : Reader) :=
    ⟨iff_of_false Bool.false_ne_true (not_not.mpr rfl), fun hon => Bool.noConfusion hon,
      fun hon => Bool.noConfusion hon, fun _ _ => ⟨rfl, rfl⟩, fun _ => rfl,
      fun _ hmem => absurd hmem List.not_mem_nil⟩
  exact run_keeps (fun _ input htracked => htracked.step input) hstart inputs

theorem Alive.step (htracked : Tracked reader) (halive : Alive reader)
    {input : Input} (hallowed : NotOvertaken reader input) : Alive (step reader input) := by
  have hoff : ∀ {other : Reader}, other.readRequested = false → Alive other :=
    fun hoff hrequested => absurd (hoff.symm.trans hrequested) Bool.false_ne_true
  cases input with
  | init =>
      unfold Barcode.step
      dsimp only
      split
      · exact halive
      · exact hoff rfl
  | startRead =>
      unfold Barcode.step
      dsimp only
      split
      · exact halive
      · exact fun _ => .inr (List.mem_append_right _ (List.mem_singleton_self _))
  | stopRead => unfold Barcode.step; dsimp only; split <;> exact hoff rfl
  | shutdown =>
      unfold Barcode.step
      dsimp only
      split
      · exact halive
      · split <;> exact hoff rfl
  | joined =>
      unfold Barcode.step
      dsimp only
      split
      · exact hoff rfl
      · exact halive
  | handler =>
      unfold Barcode.step
      dsimp only
      split
      · exact halive
      · rename_i first rest hposted
        cases first with
        | start =>
            unfold handle
            dsimp only
            split
            · exact hoff rfl
            · split
              · rename_i hrunning
                exact fun _ => .inl (htracked.running.mp hrunning)
              · exact fun _ => .inl fun hnone => Coroutine.noConfusion hnone
        | stop =>
            intro hrequested
            rw [Alive, hposted, List.mem_cons] at halive
            rcases halive hrequested with hthere | hstart
            · exact .inl hthere
            · exact .inr (hstart.resolve_left (by decide))
        | shutdown => exact hoff rfl
  | begun opened =>
      unfold Barcode.step
      dsimp only
      split
      · exact alive_of_ran htracked (ran_loopHead reader opened) going_of_loopHead
      · exact halive
  | deviceWait wait rcs opened =>
      unfold Barcode.step
      dsimp only
      split
      · exact alive_of_ran htracked (ran_afterDeviceWait reader wait rcs opened)
          going_of_afterDeviceWait
      · exact halive
  | reconnectWait wait opened =>
      unfold Barcode.step
      dsimp only
      split
      · have hran := ran_afterReconnectWait reader wait opened
        by_cases hcompleted : wait = .completed
        · apply alive_of_ran htracked hran
          intro hended
          unfold afterReconnectWait at hended
          rw [if_pos hcompleted] at hended
          split at hended
          · rename_i hgoing
            simpa using hgoing
          · exact going_of_loopHead hended
        · -- the loop ends, and only a start that is still posted can follow
          intro hrequested
          rw [hran.posted]
          exact .inr (hallowed hcompleted (hran.requested.symm.trans hrequested))
      · exact halive

/-- A dead reading stays dead: nothing is left that could go on, and a start finds the reading
requested already. -/
theorem dead_step (htracked : Tracked reader) (hdead : ¬Alive reader)
    {input : Input} (hstop : input ≠ .stopRead) (hshutdown : input ≠ .shutdown) :
    ¬Alive (step reader input) ∧ (step reader input).barcodes = reader.barcodes := by
  have hrequested : reader.readRequested = true := by
    by_contra hoff
    exact hdead fun hon => absurd hon hoff
  have hnone : reader.coroutine = .none := by
    by_contra hthere
    exact hdead fun _ => .inl hthere
  have hstart : Posted.start ∉ reader.posted := fun hmem => hdead fun _ => .inr hmem
  have hon := htracked.requested hrequested
  have hopen := htracked.closing hon
  have hresumes (hresumes : resumes input = true) :
      ¬Alive (step reader input) ∧ (step reader input).barcodes = reader.barcodes := by
    have hsame := (ran_step hresumes).resolve_right fun hran => hran.1 hnone
    rw [hsame]
    exact ⟨hdead, rfl⟩
  cases input with
  | init =>
      unfold Barcode.step
      dsimp only
      rw [if_pos (.inl hon)]
      exact ⟨hdead, rfl⟩
  | startRead =>
      unfold Barcode.step
      dsimp only
      rw [if_pos (.inr (.inr hrequested))]
      exact ⟨hdead, rfl⟩
  | stopRead => exact absurd rfl hstop
  | shutdown => exact absurd rfl hshutdown
  | joined =>
      unfold Barcode.step
      dsimp only
      rw [if_neg fun hended => Bool.false_ne_true (hopen.symm.trans hended.1)]
      exact ⟨hdead, rfl⟩
  | handler =>
      unfold Barcode.step
      dsimp only
      split
      · exact ⟨hdead, rfl⟩
      · rename_i first rest hposted
        have hshut := htracked.shutdown hopen
        rw [hposted, List.mem_cons, not_or] at hstart hshut
        cases first with
        | start => exact absurd rfl hstart.1
        | stop =>
            refine ⟨fun halive => ?_, rfl⟩
            rcases halive hrequested with hthere | hmem
            · exact hthere hnone
            · exact hstart.2 hmem
        | shutdown => exact absurd rfl hshut.1
  | begun | deviceWait | reconnectWait => exact hresumes rfl

theorem dead_run (htracked : Tracked reader) (hdead : ¬Alive reader)
    {inputs : List Input} (hinputs : ∀ input ∈ inputs, input ≠ .stopRead ∧ input ≠ .shutdown) :
    ¬Alive (run step reader inputs) ∧ (run step reader inputs).barcodes = reader.barcodes := by
  induction inputs generalizing reader with
  | nil => exact ⟨hdead, rfl⟩
  | cons input rest ih =>
      obtain ⟨hstop, hshutdown⟩ := hinputs input List.mem_cons_self
      obtain ⟨hnext, hbarcodes⟩ := dead_step htracked hdead hstop hshutdown
      obtain ⟨hrun, hsame⟩ := ih (htracked.step input) hnext fun other hother =>
        hinputs other (List.mem_cons_of_mem _ hother)
      exact ⟨hrun, hsame.trans hbarcodes⟩

/-- The wait that ends early ends the coroutine, and no start is left. -/
theorem overtaken {wait : WaitEnd} {opened : Bool}
    (hwait : reader.coroutine = .reconnect ∧ (wait = .aborted → reader.cancelled = true))
    (hovertaken : ¬NotOvertaken reader (.reconnectWait wait opened)) :
    step reader (.reconnectWait wait opened) = finish reader ∧ ¬Alive (finish reader) := by
  obtain ⟨hearly, hovertaken⟩ := Classical.not_imp.mp hovertaken
  obtain ⟨hrequested, hstart⟩ := Classical.not_imp.mp hovertaken
  constructor
  · unfold step
    dsimp only
    rw [if_pos hwait, afterReconnectWait, if_neg hearly, ite_self]
  · intro halive
    rcases halive hrequested with hthere | hmem
    · exact hthere rfl
    · exact hstart hmem

/-- In every run in which no wait for the scanner ends early once the start of the reading has
been handled, a requested reading has its coroutine, or its start is posted.  Otherwise, from
such an end on, `FnIsBarcodeReading` says that it reads, and until the next stop or shutdown no
barcode is ever reported, whatever is typed and however often the reading is started. -/
theorem reading_run (inputs : List Input) :
    (Meets step NotOvertaken {} inputs → Alive (run step {} inputs)) ∧
      ∀ wait opened more, (run step {} inputs).coroutine = .reconnect →
        (wait = .aborted → (run step {} inputs).cancelled = true) →
        ¬NotOvertaken (run step {} inputs) (.reconnectWait wait opened) →
        (∀ input ∈ more, input ≠ Input.stopRead ∧ input ≠ .shutdown) →
        (run step {} (inputs ++ .reconnectWait wait opened :: more)).readRequested = true ∧
          (run step {} (inputs ++ .reconnectWait wait opened :: more)).barcodes =
            (run step {} inputs).barcodes := by
  constructor
  · intro hmeets
    have hstart : Alive ({} : Reader) := fun hon => Bool.noConfusion hon
    have hboth : Tracked (run step {} inputs) ∧ Alive (run step {} inputs) :=
      @run_invariant Reader Input step NotOvertaken (fun reader => Tracked reader ∧ Alive reader)
        (fun _ input hinv hallowed => ⟨hinv.1.step input, hinv.2.step hinv.1 hallowed⟩)
        {} inputs ⟨tracked_run [], hstart⟩ hmeets
    exact hboth.2
  · intro wait opened more hreconnect hcancelled hovertaken hmore
    obtain ⟨hstep, hdead⟩ := overtaken ⟨hreconnect, hcancelled⟩ hovertaken
    have htracked := (tracked_run inputs).step (.reconnectWait wait opened)
    rw [hstep] at htracked
    obtain ⟨hstill, hbarcodes⟩ := dead_run htracked hdead hmore
    rw [run_append, run_cons, hstep]
    refine ⟨?_, hbarcodes⟩
    by_contra hoff
    exact hstill fun hon => absurd hon hoff

/-- The scanner is not there; the reading is stopped and started again before the thread has
seen the stop. -/
def stoppedAndStarted : List Input :=
  [.init, .startRead, .handler, .begun false, .stopRead, .startRead, .handler, .handler]

theorem reading_run_stoppedAndStarted :
    let later : List Input := [.startRead, .handler, .startRead]
    (run step {} (stoppedAndStarted ++ .reconnectWait .aborted false :: later)).readRequested =
        true ∧
      (run step {} (stoppedAndStarted ++ .reconnectWait .aborted false :: later)).barcodes =
        (run step {} stoppedAndStarted).barcodes := by
  have hovertaken :
      ¬NotOvertaken (run step {} stoppedAndStarted) (.reconnectWait .aborted false) :=
    fun hallowed => absurd (hallowed (by decide) (by decide)) (by decide)
  exact (reading_run stoppedAndStarted).2 .aborted false [.startRead, .handler, .startRead]
    (by decide) (fun _ => by decide) hovertaken (by decide)

end LinuxPBS.Barcode

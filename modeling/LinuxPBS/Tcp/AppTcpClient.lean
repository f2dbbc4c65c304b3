import Mathlib.Data.List.Infix
import LinuxPBS.Library.Machine

/-!
# `AppTcpClient`

`tcp_client.cpp`.  All work is done on one I/O thread: the public functions post to it, and the
completions of the operations on the socket run on it.  An input is one such piece of
work, and the pieces come in any order:

```text
connect, send, close      posted by the users of the client
onConnect, onWrite, onRead    an outstanding operation completes
transfer                  an outstanding write puts some of its bytes on its connection
```

An operation is outstanding until its completion has run, also when the client has closed
its socket or opened another one in the meantime.  Every socket session has its
own `connectionGeneration_`, which the completions compare with the current one.

Closing a socket cancels its operations: a write whose socket is not open any more puts no
further bytes on its connection.
-/

namespace LinuxPBS.Tcp

/-- A message, and the generation of the connection on which it was enqueued. -/
structure Message where
  origin : ℕ
  bytes : List UInt8
  deriving DecidableEq

/-- An outstanding `async_write`. -/
structure Write where
  connection : ℕ
  message : Message
  transferred : ℕ := 0
  deriving DecidableEq

/-- Bytes that were put on a connection. -/
structure Transfer where
  connection : ℕ
  origin : ℕ
  bytes : List UInt8
  deriving DecidableEq

/-- How an operation on the socket ends. -/
inductive Outcome
  | ok
  /-- `operation_aborted` -/
  | aborted
  | failed
  deriving DecidableEq

/-- What the client tells its handlers. -/
inductive Report
  | connect (success : Bool)
  | send (success : Bool)
  | receive (success : Bool) (data : List UInt8)
  | close (success : Bool)
  deriving DecidableEq

/-- The members of `AppTcpClient`, its outstanding operations, and what has been seen of it. -/
structure Client where
  connectionGeneration : ℕ := 0
  connecting : Bool := false
  closing : Bool := false
  /-- `connectedSnapshot_` -/
  connected : Bool := false
  writeQueue : List Message := []
  writeInProgress : Bool := false
  /-- the session of the open `socket_` -/
  socket : Option ℕ := none
  connects : List ℕ := []
  writes : List Write := []
  reads : List ℕ := []
  /-- the messages that were put into `writeQueue_`, in order -/
  enqueued : List Message := []
  transfers : List Transfer := []
  reports : List Report := []
  deriving DecidableEq

namespace Client

/-- Call one of the handlers. -/
def report (s : Client) (report : Report) : Client := { s with reports := s.reports ++ [report] }

def closeSocketNoThrow (s : Client) : Client := { s with socket := none }

def startNextWriteOnIoThread (s : Client) (generation : ℕ) : Client :=
  if generation ≠ s.connectionGeneration ∨ s.closing ∨ s.writeInProgress ∨ s.connected = false ∨
      s.socket = none then s
  else
    match s.writeQueue with
    | [] => s
    | message :: _ =>
        { s with writeInProgress := true, writes := s.writes ++ [{ connection := generation, message }] }

def startAsyncReceiveOnIoThread (s : Client) (generation : ℕ) : Client :=
  if generation ≠ s.connectionGeneration ∨ s.closing ∨ s.connected = false ∨ s.socket = none then s
  else { s with reads := s.reads ++ [generation] }

def connectOnIoThread (s : Client) : Client :=
  if s.connected ∨ s.connecting then s
  else
    let generation := s.connectionGeneration + 1
    let s := closeSocketNoThrow
      { s with
        connectionGeneration := generation, closing := false, connecting := true
        writeInProgress := false, writeQueue := [], connected := false }
    { s with socket := some generation, connects := s.connects ++ [generation] }

def enqueueSendOnIoThread (s : Client) (bytes : List UInt8) : Client :=
  if s.connected = false ∨ s.closing ∨ s.socket = none then s.report (.send false)
  else
    let message := ⟨s.connectionGeneration, bytes⟩
    let s := { s with
      writeQueue := s.writeQueue ++ [message], enqueued := s.enqueued ++ [message] }
    if s.writeInProgress then s else s.startNextWriteOnIoThread s.connectionGeneration

def closeOnIoThread (s : Client) (notifyHandler closeError : Bool) : Client :=
  let hadActivity := s.socket.isSome || s.connecting || s.connected
  let s := { s with
    connectionGeneration := s.connectionGeneration + 1, connecting := false, connected := false
    writeQueue := [], writeInProgress := false, socket := none, closing := false }
  if notifyHandler && hadActivity then s.report (.close !closeError) else s

def handleTransportFailureOnIoThread (s : Client) (notifyReceiveHandler : Bool) : Client :=
  let s := closeSocketNoThrow
    { s with
      connectionGeneration := s.connectionGeneration + 1, connecting := false, closing := false
      connected := false, writeQueue := [], writeInProgress := false }
  let s := if notifyReceiveHandler then s.report (.receive false []) else s
  s.report (.close false)

/-- The completion of `async_connect`. -/
def onConnect (s : Client) (generation : ℕ) (outcome : Outcome) : Client :=
  if generation ≠ s.connectionGeneration then s
  else
    let s := { s with connecting := false }
    if outcome ≠ .ok then
      let s := closeSocketNoThrow { s with connected := false }
      if outcome = .aborted ∧ s.closing then s else s.report (.connect false)
    else ({ s with connected := true }.report (.connect true)).startAsyncReceiveOnIoThread generation

/-- The completion of `async_write`. -/
def onWrite (s : Client) (generation : ℕ) (outcome : Outcome) : Client :=
  if generation ≠ s.connectionGeneration then s
  else
    let s := { s with writeInProgress := false }
    if outcome ≠ .ok then
      if outcome = .aborted ∧ s.closing then s
      else (s.report (.send false)).handleTransportFailureOnIoThread false
    else
      let s := { s with writeQueue := s.writeQueue.tail }
      (s.report (.send true)).startNextWriteOnIoThread generation

/-- The completion of `async_read_some`. -/
def onRead (s : Client) (generation : ℕ) (outcome : Outcome) (data : List UInt8) : Client :=
  if generation ≠ s.connectionGeneration then s
  else
    match outcome with
    | .aborted => s
    | .failed => s.handleTransportFailureOnIoThread true
    | .ok =>
        (if data = [] then s else s.report (.receive true data)).startAsyncReceiveOnIoThread
          generation

end Client

/-! ## The inputs -/

/-- A piece of work on the I/O thread; completions and transfers name an outstanding
operation by its place. -/
inductive Input
  | connect
  | send (bytes : List UInt8)
  | close (closeError : Bool)
  | onConnect (place : ℕ) (outcome : Outcome)
  | onWrite (place : ℕ) (outcome : Outcome)
  | onRead (place : ℕ) (outcome : Outcome) (data : List UInt8)
  | transfer (place count : ℕ)
  deriving DecidableEq

/-- The next `count` bytes of a write whose socket is open. -/
def Client.transfer (s : Client) (place count : ℕ) (write : Write) : Client :=
  if s.socket = some write.connection then
    let bytes := (write.message.bytes.drop write.transferred).take count
    { s with
      writes := s.writes.set place { write with transferred := write.transferred + bytes.length }
      transfers := s.transfers ++ [⟨write.connection, write.message.origin, bytes⟩] }
  else s

/-- One piece of work.  An `async_write` completes without an error when all of its bytes have been
put on the connection. -/
def step (s : Client) : Input → Client
  | .connect => s.connectOnIoThread
  | .send bytes => s.enqueueSendOnIoThread bytes
  | .close closeError => s.closeOnIoThread true closeError
  | .onConnect place outcome =>
      match s.connects[place]? with
      | none => s
      | some generation => { s with connects := s.connects.eraseIdx place }.onConnect generation outcome
  | .onWrite place outcome =>
      match s.writes[place]? with
      | none => s
      | some write =>
          if outcome = .ok ∧ write.transferred ≠ write.message.bytes.length then s
          else
            { s with writes := s.writes.eraseIdx place }.onWrite write.connection outcome
  | .onRead place outcome data =>
      match s.reads[place]? with
      | none => s
      | some generation => { s with reads := s.reads.eraseIdx place }.onRead generation outcome data
  | .transfer place count =>
      match s.writes[place]? with
      | none => s
      | some write => s.transfer place count write

end LinuxPBS.Tcp

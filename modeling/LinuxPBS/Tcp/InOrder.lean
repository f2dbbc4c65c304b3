import LinuxPBS.Tcp.AppTcpClient

/-!
# In order, once, on one connection

The queue belongs to the current generation: whatever begins a new one clears it and
closes the socket, so that the writes of older generations can complete but not go on.
For the current generation

```text
messages enqueued  =  bytes on the connection ++ the rest of the write under way ++ the queue behind it
```

and an older one has put a prefix of its messages on its connection.
-/

namespace LinuxPBS.Tcp

open Machine

namespace Client

/-- The bytes put on a connection. -/
def wire (s : Client) (connection : ℕ) : List UInt8 :=
  (s.transfers.filter (·.connection = connection)).flatMap (·.bytes)

/-- The messages enqueued while a connection was up, one after the other. -/
def enqueuedOn (s : Client) (connection : ℕ) : List UInt8 :=
  (s.enqueued.filter (·.origin = connection)).flatMap (·.bytes)

/-- The writes in flight on the current socket. -/
def inFlight (s : Client) : List Write :=
  s.writes.filter (·.connection = s.connectionGeneration)

/-- The bytes that the current connection has still to get. -/
def waiting (s : Client) : List UInt8 :=
  match s.inFlight with
  | [] => s.writeQueue.flatMap (·.bytes)
  | write :: _ =>
      write.message.bytes.drop write.transferred ++ s.writeQueue.tail.flatMap (·.bytes)

/-- A write is under way for the front of the queue, or none is. -/
def WritesFront (s : Client) : Prop :=
  s.inFlight = [] ∨
    ∃ write rest, s.inFlight = [write] ∧ s.writeQueue = write.message :: rest ∧
      s.writeInProgress = true

/-- The invariant of a run. -/
structure Ordered (s : Client) : Prop where
  open_ : s.closing = false
  socket : ∀ connection ∈ s.socket, connection = s.connectionGeneration
  enqueued : ∀ message ∈ s.enqueued, message.origin ≤ s.connectionGeneration
  queue : ∀ message ∈ s.writeQueue, message.origin = s.connectionGeneration
  writes : ∀ write ∈ s.writes, write.connection ≤ s.connectionGeneration ∧
    write.message.origin = write.connection
  front : s.WritesFront
  transfers : ∀ transfer ∈ s.transfers, transfer.connection ≤ s.connectionGeneration ∧
    transfer.origin = transfer.connection
  current : s.enqueuedOn s.connectionGeneration = s.wire s.connectionGeneration ++ s.waiting
  earlier : ∀ connection < s.connectionGeneration, s.wire connection <+: s.enqueuedOn connection

variable {s t : Client}

/-- What counts for the invariant has stayed, but that the socket may have been closed. -/
theorem Ordered.of_same (h : s.Ordered) (hgeneration : t.connectionGeneration = s.connectionGeneration)
    (hclosing : t.closing = s.closing) (hsocket : ∀ connection ∈ t.socket, connection ∈ s.socket)
    (hqueue : t.writeQueue = s.writeQueue) (hprogress : t.writeInProgress = s.writeInProgress)
    (hwrites : t.writes = s.writes) (henqueued : t.enqueued = s.enqueued)
    (htransfers : t.transfers = s.transfers) : t.Ordered := by
  have hinFlight : t.inFlight = s.inFlight := by simp only [inFlight, hwrites, hgeneration]
  have hwire : t.wire = s.wire := by funext g; simp only [wire, htransfers]
  have henqueuedOn : t.enqueuedOn = s.enqueuedOn := by funext g; simp only [enqueuedOn, henqueued]
  have hwaiting : t.waiting = s.waiting := by simp only [waiting, hinFlight, hqueue]
  refine ⟨?_, ?_, ?_, ?_, ?_, ?_, ?_, ?_, ?_⟩
  · rw [hclosing]; exact h.open_
  · rw [hgeneration]; exact fun g hg => h.socket g (hsocket g hg)
  · rw [hgeneration, henqueued]; exact h.enqueued
  · rw [hgeneration, hqueue]; exact h.queue
  · rw [hgeneration, hwrites]; exact h.writes
  · rw [WritesFront, hinFlight, hqueue, hprogress]; exact h.front
  · rw [hgeneration, htransfers]; exact h.transfers
  · rw [hgeneration, henqueuedOn, hwire, hwaiting]; exact h.current
  · rw [hgeneration, henqueuedOn, hwire]; exact h.earlier

theorem Ordered.prefix_enqueuedOn (h : s.Ordered) (connection : ℕ) :
    s.wire connection <+: s.enqueuedOn connection := by
  rcases Nat.lt_trichotomy connection s.connectionGeneration with hlt | rfl | hgt
  · exact h.earlier connection hlt
  · exact ⟨s.waiting, h.current.symm⟩
  · have hnone : s.wire connection = [] := by
      rw [wire, List.filter_eq_nil_iff.mpr]
      · rfl
      · intro transfer htransfer
        have hle := (h.transfers transfer htransfer).1
        simp only [decide_eq_true_eq]
        omega
    rw [hnone]
    exact List.nil_prefix

/-- A new generation begins with an empty queue, without the socket of the one before. -/
theorem Ordered.renew (h : s.Ordered)
    (hgeneration : t.connectionGeneration = s.connectionGeneration + 1)
    (hclosing : t.closing = false) (hsocket : ∀ connection ∈ t.socket, connection = t.connectionGeneration)
    (hqueue : t.writeQueue = []) (hwrites : ∀ write ∈ t.writes, write ∈ s.writes)
    (henqueued : t.enqueued = s.enqueued) (htransfers : t.transfers = s.transfers) : t.Ordered := by
  have hinFlight : t.inFlight = [] := by
    refine List.filter_eq_nil_iff.mpr fun write hwrite => ?_
    have hle := (h.writes write (hwrites write hwrite)).1
    simp only [decide_eq_true_eq]
    omega
  have hnone : t.enqueuedOn t.connectionGeneration = [] := by
    rw [enqueuedOn, List.filter_eq_nil_iff.mpr]
    · rfl
    · intro message hmessage
      have hle := h.enqueued message (henqueued ▸ hmessage)
      simp only [decide_eq_true_eq]
      omega
  have hwire : t.wire = s.wire := by funext g; simp only [wire, htransfers]
  have henqueuedOn : t.enqueuedOn = s.enqueuedOn := by funext g; simp only [enqueuedOn, henqueued]
  refine ⟨hclosing, hsocket, ?_, ?_, ?_, Or.inl hinFlight, ?_, ?_, ?_⟩
  · rw [hgeneration, henqueued]
    exact fun message hmessage => (h.enqueued message hmessage).trans (Nat.le_succ _)
  · rw [hqueue]
    exact fun message hmessage => absurd hmessage List.not_mem_nil
  · intro write hwrite
    obtain ⟨hle, horigin⟩ := h.writes write (hwrites write hwrite)
    exact ⟨by omega, horigin⟩
  · rw [hgeneration, htransfers]
    exact fun transfer htransfer =>
      ⟨(h.transfers transfer htransfer).1.trans (Nat.le_succ _), (h.transfers transfer htransfer).2⟩
  · have hprefix := h.prefix_enqueuedOn t.connectionGeneration
    rw [← henqueuedOn, ← hwire, hnone, List.prefix_nil] at hprefix
    rw [hnone, hprefix, waiting, hinFlight, hqueue]
    rfl
  · intro connection _
    rw [hwire, henqueuedOn]
    exact h.prefix_enqueuedOn connection

/-! ## The functions -/

theorem Ordered.report (h : s.Ordered) (report : Report) : (s.report report).Ordered :=
  h.of_same rfl rfl (fun _ hg => hg) rfl rfl rfl rfl rfl

/-- A failure of the transport ends the generation, also while a write has just completed. -/
theorem Ordered.handleTransportFailure_of (h : s.Ordered)
    (hgeneration : t.connectionGeneration = s.connectionGeneration)
    (hwrites : ∀ write ∈ t.writes, write ∈ s.writes) (henqueued : t.enqueued = s.enqueued)
    (htransfers : t.transfers = s.transfers) (notifyReceiveHandler : Bool) :
    (t.handleTransportFailureOnIoThread notifyReceiveHandler).Ordered := by
  have hrenewed : (Client.closeSocketNoThrow
      { t with
        connectionGeneration := t.connectionGeneration + 1, connecting := false, closing := false
        connected := false, writeQueue := [], writeInProgress := false }).Ordered :=
    h.renew (congrArg (· + 1) hgeneration) rfl (fun _ hg => by cases hg) rfl hwrites henqueued
      htransfers
  unfold Client.handleTransportFailureOnIoThread
  split
  · exact (hrenewed.report _).report _
  · exact hrenewed.report _

theorem Ordered.handleTransportFailureOnIoThread (h : s.Ordered) (notifyReceiveHandler : Bool) :
    (s.handleTransportFailureOnIoThread notifyReceiveHandler).Ordered :=
  h.handleTransportFailure_of rfl (fun _ hwrite => hwrite) rfl rfl _

theorem Ordered.closeOnIoThread (h : s.Ordered) (notifyHandler closeError : Bool) :
    (s.closeOnIoThread notifyHandler closeError).Ordered := by
  have hrenewed : ({ s with
      connectionGeneration := s.connectionGeneration + 1, connecting := false, connected := false
      writeQueue := [], writeInProgress := false, socket := none, closing := false } :
        Client).Ordered :=
    h.renew rfl rfl (fun _ hg => by cases hg) rfl (fun _ hwrite => hwrite) rfl rfl
  simp only [Client.closeOnIoThread]
  split
  · exact hrenewed.report _
  · exact hrenewed

theorem Ordered.connectOnIoThread (h : s.Ordered) : s.connectOnIoThread.Ordered := by
  unfold Client.connectOnIoThread
  split
  · exact h
  · exact h.renew rfl rfl (fun g hg => (Option.some.inj hg).symm) rfl (fun _ hwrite => hwrite) rfl
      rfl

theorem Ordered.startAsyncReceiveOnIoThread (h : s.Ordered) (generation : ℕ) :
    (s.startAsyncReceiveOnIoThread generation).Ordered := by
  unfold Client.startAsyncReceiveOnIoThread
  split
  · exact h
  · exact h.of_same rfl rfl (fun _ hg => hg) rfl rfl rfl rfl rfl

/-- A write of the front of the queue is begun when none is under way. -/
theorem Ordered.startNextWriteOnIoThread (h : s.Ordered) (hnone : s.inFlight = [])
    (generation : ℕ) : (s.startNextWriteOnIoThread generation).Ordered := by
  unfold Client.startNextWriteOnIoThread
  split
  · exact h
  · rename_i hguard
    obtain rfl : generation = s.connectionGeneration := by
      by_contra hne
      exact hguard (Or.inl hne)
    split
    · exact h
    · rename_i message rest hqueue
      have horigin := h.queue message (hqueue ▸ List.mem_cons_self)
      set begun : Write := { connection := s.connectionGeneration, message } with hbegun
      have hinFlight : Client.inFlight
          { s with writeInProgress := true, writes := s.writes ++ [begun] } = [begun] := by
        have hold : s.writes.filter (·.connection = s.connectionGeneration) = [] := hnone
        simp only [inFlight, List.filter_append, hold, List.nil_append, hbegun,
          List.filter_cons, decide_true, if_true, List.filter_nil]
      refine ⟨h.open_, h.socket, h.enqueued, h.queue, ?_, ?_, h.transfers, ?_, h.earlier⟩
      · intro write hwrite
        rcases List.mem_append.mp hwrite with hold | hnew
        · exact h.writes write hold
        · obtain rfl := List.mem_singleton.mp hnew
          exact ⟨Nat.le_refl _, horigin⟩
      · exact Or.inr ⟨begun, rest, hinFlight, hqueue, rfl⟩
      · have hcurrent := h.current
        rw [waiting, hnone, hqueue] at hcurrent
        rw [waiting, hinFlight]
        simp only [hqueue, hbegun, List.drop_zero, List.tail_cons]
        exact hcurrent

/-- The client with one more message in its queue. -/
def enqueue (s : Client) (message : Message) : Client :=
  { s with writeQueue := s.writeQueue ++ [message], enqueued := s.enqueued ++ [message] }

theorem enqueuedOn_enqueue (message : Message) (connection : ℕ) :
    (s.enqueue message).enqueuedOn connection =
      s.enqueuedOn connection ++ if message.origin = connection then message.bytes else [] := by
  simp only [enqueuedOn, enqueue, List.filter_append, List.flatMap_append]
  split <;> rename_i horigin <;> simp [horigin]

theorem Ordered.enqueue (h : s.Ordered) {message : Message}
    (horigin : message.origin = s.connectionGeneration) : (s.enqueue message).Ordered := by
  have hwaiting : (s.enqueue message).waiting = s.waiting ++ message.bytes := by
    have hsame : (s.enqueue message).inFlight = s.inFlight := rfl
    rcases h.front with hnone | ⟨write, rest, hone, hqueue, -⟩
    · rw [waiting, waiting, hsame, hnone]
      simp [Client.enqueue]
    · rw [waiting, waiting, hsame, hone]
      simp [Client.enqueue, hqueue]
  refine ⟨h.open_, h.socket, ?_, ?_, h.writes, ?_, h.transfers, ?_, ?_⟩
  · intro other hother
    rcases List.mem_append.mp hother with hold | hnew
    · exact h.enqueued other hold
    · exact (List.mem_singleton.mp hnew ▸ horigin).le
  · intro other hother
    rcases List.mem_append.mp hother with hold | hnew
    · exact h.queue other hold
    · exact List.mem_singleton.mp hnew ▸ horigin
  · rcases h.front with hnone | ⟨write, rest, hone, hqueue, hbusy⟩
    · exact Or.inl hnone
    · exact Or.inr ⟨write, rest ++ [message], hone, by simp [Client.enqueue, hqueue], hbusy⟩
  · rw [hwaiting, enqueuedOn_enqueue]
    show s.enqueuedOn s.connectionGeneration ++ (if message.origin = s.connectionGeneration then _ else _) =
      s.wire s.connectionGeneration ++ _
    rw [if_pos horigin, h.current, List.append_assoc]
  · intro connection hlt
    have hne : message.origin ≠ connection := by
      change connection < s.connectionGeneration at hlt
      omega
    rw [enqueuedOn_enqueue, if_neg hne, List.append_nil]
    exact h.earlier connection hlt

theorem Ordered.enqueueSendOnIoThread (h : s.Ordered) (bytes : List UInt8) :
    (s.enqueueSendOnIoThread bytes).Ordered := by
  unfold Client.enqueueSendOnIoThread
  split
  · exact h.report _
  · have henqueued : (s.enqueue ⟨s.connectionGeneration, bytes⟩).Ordered := h.enqueue rfl
    simp only
    split
    · exact henqueued
    · rename_i hprogress
      refine henqueued.startNextWriteOnIoThread ?_ _
      rcases h.front with hnone | ⟨write, rest, -, -, hbusy⟩
      · exact hnone
      · exact absurd hbusy hprogress

/-! ## The completions -/

/-- What an outstanding operation in the list is, and the others. -/
theorem split_of_getElem? {α : Type*} {list : List α} {place : ℕ} {value : α}
    (hplace : list[place]? = some value) :
    ∃ front back, list = front ++ value :: back ∧ list.eraseIdx place = front ++ back ∧
      ∀ other, list.set place other = front ++ other :: back := by
  obtain ⟨hlt, rfl⟩ := List.getElem?_eq_some_iff.mp hplace
  refine ⟨list.take place, list.drop (place + 1), ?_, ?_, fun other => ?_⟩
  · rw [← List.drop_eq_getElem_cons hlt, List.take_append_drop]
  · exact List.eraseIdx_eq_take_drop_succ list place
  · exact List.set_eq_take_append_cons_drop.trans (if_pos hlt)

theorem Ordered.onConnect (h : s.Ordered) (generation : ℕ) (outcome : Outcome) :
    (s.onConnect generation outcome).Ordered := by
  unfold Client.onConnect
  split
  · exact h
  · have hconnecting : ({ s with connecting := false } : Client).Ordered :=
      h.of_same rfl rfl (fun _ hg => hg) rfl rfl rfl rfl rfl
    have hclosed : (Client.closeSocketNoThrow
        { s with connecting := false, connected := false }).Ordered :=
      h.of_same rfl rfl (fun _ hg => by cases hg) rfl rfl rfl rfl rfl
    have hconnected : ({ s with connecting := false, connected := true } : Client).Ordered :=
      h.of_same rfl rfl (fun _ hg => hg) rfl rfl rfl rfl rfl
    simp only
    split
    · split
      · exact hclosed
      · exact hclosed.report _
    · exact (hconnected.report _).startAsyncReceiveOnIoThread _

theorem Ordered.onRead (h : s.Ordered) (generation : ℕ) (outcome : Outcome) (data : List UInt8) :
    (s.onRead generation outcome data).Ordered := by
  unfold Client.onRead
  split
  · exact h
  · cases outcome with
    | aborted => exact h
    | failed => exact h.handleTransportFailureOnIoThread true
    | ok =>
        simp only
        split
        · exact h.startAsyncReceiveOnIoThread _
        · exact (h.report _).startAsyncReceiveOnIoThread _

/-- The write of the current generation is the only one, and the front of the queue. -/
theorem Ordered.inFlight_of_mem (h : s.Ordered) {write : Write} {front back : List Write}
    (hwrites : s.writes = front ++ write :: back)
    (hcurrent : write.connection = s.connectionGeneration) :
    s.inFlight = [write] ∧ (front ++ back).filter (·.connection = s.connectionGeneration) = [] ∧
      ∃ rest, s.writeQueue = write.message :: rest ∧ s.writeInProgress = true := by
  have hinFlight : s.inFlight = front.filter (·.connection = s.connectionGeneration) ++
      write :: back.filter (·.connection = s.connectionGeneration) := by
    rw [inFlight, hwrites, List.filter_append, List.filter_cons, if_pos (by simpa using hcurrent)]
  rcases h.front with hnone | ⟨other, rest, hone, hqueue, hbusy⟩
  · rw [hinFlight] at hnone
    exact absurd (List.append_eq_nil_iff.mp hnone).2 (List.cons_ne_nil _ _)
  · rw [hone] at hinFlight
    have hlength := congrArg List.length hinFlight
    simp only [List.length_append, List.length_cons, List.length_nil] at hlength
    have hfront := List.eq_nil_of_length_eq_zero
      (show (front.filter (·.connection = s.connectionGeneration)).length = 0 by omega)
    have hback := List.eq_nil_of_length_eq_zero
      (show (back.filter (·.connection = s.connectionGeneration)).length = 0 by omega)
    rw [hfront, hback] at hinFlight
    obtain rfl : other = write := (List.cons.inj hinFlight).1
    exact ⟨hone, by rw [List.filter_append, hfront, hback]; rfl, rest, hqueue, hbusy⟩

/-- The write of an older generation completes. -/
theorem Ordered.erase_stale (h : s.Ordered) {write : Write} {front back : List Write}
    (hwrites : s.writes = front ++ write :: back)
    (hstale : write.connection ≠ s.connectionGeneration) :
    ({ s with writes := front ++ back } : Client).Ordered := by
  have hinFlight : Client.inFlight { s with writes := front ++ back } = s.inFlight := by
    simp only [inFlight, hwrites, List.filter_append, List.filter_cons, decide_eq_true_eq,
      if_neg hstale]
  have hwaiting : Client.waiting { s with writes := front ++ back } = s.waiting := by
    simp only [waiting, hinFlight]
  refine ⟨h.open_, h.socket, h.enqueued, h.queue, ?_, ?_, h.transfers, ?_, h.earlier⟩
  · intro other hother
    refine h.writes other (hwrites ▸ ?_)
    rcases List.mem_append.mp hother with hfront | hback
    · exact List.mem_append_left _ hfront
    · exact List.mem_append_right _ (List.mem_cons_of_mem _ hback)
  · rw [WritesFront, hinFlight]
    exact h.front
  · rw [hwaiting]
    exact h.current

/-- The write of the current generation completes when all of its bytes have been put on the
connection: the queue goes on behind it. -/
theorem Ordered.pop_front (h : s.Ordered) {write : Write} {front back : List Write}
    (hwrites : s.writes = front ++ write :: back)
    (hcurrent : write.connection = s.connectionGeneration)
    (hall : write.transferred = write.message.bytes.length) :
    (Client.inFlight { s with
      writes := front ++ back, writeInProgress := false, writeQueue := s.writeQueue.tail } = []) ∧
      ({ s with
        writes := front ++ back, writeInProgress := false, writeQueue := s.writeQueue.tail } :
          Client).Ordered := by
  obtain ⟨hone, hnone, rest, hqueue, -⟩ := h.inFlight_of_mem hwrites hcurrent
  refine ⟨hnone, h.open_, h.socket, h.enqueued, ?_, ?_, Or.inl hnone, h.transfers, ?_, h.earlier⟩
  · exact fun message hmessage => h.queue message (List.mem_of_mem_tail hmessage)
  · intro other hother
    refine h.writes other (hwrites ▸ ?_)
    rcases List.mem_append.mp hother with hfront | hback
    · exact List.mem_append_left _ hfront
    · exact List.mem_append_right _ (List.mem_cons_of_mem _ hback)
  · have hstream := h.current
    rw [waiting, hone] at hstream
    simp only [hall, List.drop_length, List.nil_append] at hstream
    refine hstream.trans (congrArg _ ?_)
    rw [waiting, show Client.inFlight { s with
      writes := front ++ back, writeInProgress := false, writeQueue := s.writeQueue.tail } = []
      from hnone]

theorem Ordered.onWrite (h : s.Ordered) {place : ℕ} {write : Write}
    (hplace : s.writes[place]? = some write) {outcome : Outcome}
    (hall : outcome = .ok → write.transferred = write.message.bytes.length) :
    ({ s with writes := s.writes.eraseIdx place }.onWrite write.connection outcome).Ordered := by
  obtain ⟨front, back, hwrites, herase, -⟩ := split_of_getElem? hplace
  rw [herase]
  unfold Client.onWrite
  split
  · rename_i hstale
    exact h.erase_stale hwrites hstale
  · rename_i hcurrent
    have hcurrent : write.connection = s.connectionGeneration := not_not.mp hcurrent
    simp only
    split
    · split
      · rename_i hclosing
        rw [h.open_] at hclosing
        cases hclosing.2
      · refine h.handleTransportFailure_of ?_ (fun other hother => ?_) ?_ ?_ _
        · rfl
        · rw [hwrites]
          rcases List.mem_append.mp hother with hfront | hback
          · exact List.mem_append_left _ hfront
          · exact List.mem_append_right _ (List.mem_cons_of_mem _ hback)
        · rfl
        · rfl
    · rename_i hok
      obtain ⟨hnone, hpopped⟩ := h.pop_front hwrites hcurrent (hall (not_not.mp hok))
      exact (hpopped.report _).startNextWriteOnIoThread hnone _

/-! ## The transfers -/

theorem wire_of_transfers {transfer : Transfer}
    (htransfers : t.transfers = s.transfers ++ [transfer]) (connection : ℕ) :
    t.wire connection =
      s.wire connection ++ if transfer.connection = connection then transfer.bytes else [] := by
  simp only [wire, htransfers, List.filter_append, List.flatMap_append]
  split <;> rename_i hconnection <;> simp [hconnection]

theorem Ordered.transfer (h : s.Ordered) {place : ℕ} {write : Write}
    (hplace : s.writes[place]? = some write) (count : ℕ) :
    (s.transfer place count write).Ordered := by
  unfold Client.transfer
  split
  · rename_i hsocket
    have hcurrent : write.connection = s.connectionGeneration := h.socket _ hsocket
    obtain ⟨front, back, hwrites, -, hset⟩ := split_of_getElem? hplace
    obtain ⟨hone, hnone, rest, hqueue, hbusy⟩ := h.inFlight_of_mem hwrites hcurrent
    have hmem : write ∈ s.writes := hwrites ▸ List.mem_append_right _ List.mem_cons_self
    obtain ⟨-, horigin⟩ := h.writes write hmem
    set bytes := (write.message.bytes.drop write.transferred).take count with hbytes
    simp only [hset]
    set later : Write := { write with transferred := write.transferred + bytes.length } with hlater
    have hinFlight : Client.inFlight { s with
        writes := front ++ later :: back
        transfers := s.transfers ++ [⟨write.connection, write.message.origin, bytes⟩] } =
          [later] := by
      rw [List.filter_append] at hnone
      obtain ⟨hfront, hback⟩ := List.append_eq_nil_iff.mp hnone
      simp only [inFlight, List.filter_append, List.filter_cons, hfront, hback, hlater, hcurrent,
        decide_true, if_true, List.nil_append]
    have hsplit : write.message.bytes.drop write.transferred =
        bytes ++ write.message.bytes.drop (write.transferred + bytes.length) := by
      rw [← List.drop_drop]
      exact List.prefix_append_drop (List.take_prefix count _)
    refine ⟨h.open_, h.socket, h.enqueued, h.queue, ?_, ?_, ?_, ?_, ?_⟩
    · intro other hother
      rcases List.mem_append.mp hother with hfront | hback
      · exact h.writes other (hwrites ▸ List.mem_append_left _ hfront)
      · rcases List.mem_cons.mp hback with rfl | hback
        · exact h.writes write hmem
        · exact h.writes other
            (hwrites ▸ List.mem_append_right _ (List.mem_cons_of_mem _ hback))
    · exact Or.inr ⟨later, rest, hinFlight, hqueue, hbusy⟩
    · intro other hother
      rcases List.mem_append.mp hother with hold | hnew
      · exact h.transfers other hold
      · obtain rfl := List.mem_singleton.mp hnew
        exact ⟨hcurrent.le, horigin⟩
    · have hstream := h.current
      rw [waiting, hone] at hstream
      simp only at hstream
      rw [wire_of_transfers rfl, waiting, hinFlight]
      simp only [hcurrent, if_true, hlater, List.append_assoc]
      rw [← List.append_assoc bytes, ← hsplit]
      exact hstream
    · intro connection hlt
      have hne : write.connection ≠ connection := by
        change connection < s.connectionGeneration at hlt
        omega
      rw [wire_of_transfers rfl, if_neg hne, List.append_nil]
      exact h.earlier connection hlt
  · exact h

/-! ## The runs -/

/-- One piece of work keeps the invariant. -/
theorem Ordered.step (h : s.Ordered) (input : Input) : (step s input).Ordered := by
  cases input with
  | connect => exact h.connectOnIoThread
  | send bytes => exact h.enqueueSendOnIoThread bytes
  | close closeError => exact h.closeOnIoThread true closeError
  | onConnect place outcome =>
      simp only [Tcp.step]
      split
      · exact h
      · rename_i generation hplace
        have hcompleted : ({ s with connects := s.connects.eraseIdx place } : Client).Ordered :=
          h.of_same rfl rfl (fun _ hg => hg) rfl rfl rfl rfl rfl
        exact hcompleted.onConnect generation outcome
  | onWrite place outcome =>
      simp only [Tcp.step]
      split
      · exact h
      · rename_i write hplace
        split
        · exact h
        · rename_i hall
          exact h.onWrite hplace fun hok => by_contra fun hne => hall ⟨hok, hne⟩
  | onRead place outcome data =>
      simp only [Tcp.step]
      split
      · exact h
      · rename_i generation hplace
        have hcompleted : ({ s with reads := s.reads.eraseIdx place } : Client).Ordered :=
          h.of_same rfl rfl (fun _ hg => hg) rfl rfl rfl rfl rfl
        exact hcompleted.onRead generation outcome data
  | transfer place count =>
      simp only [Tcp.step]
      split
      · exact h
      · rename_i write hplace
        exact h.transfer hplace count

theorem ordered_init : Client.Ordered {} where
  open_ := rfl
  socket := fun _ hg => by cases hg
  enqueued := fun _ hmessage => absurd hmessage List.not_mem_nil
  queue := fun _ hmessage => absurd hmessage List.not_mem_nil
  writes := fun _ hwrite => absurd hwrite List.not_mem_nil
  front := Or.inl rfl
  transfers := fun _ htransfer => absurd htransfer List.not_mem_nil
  current := rfl
  earlier := fun _ hlt => absurd hlt (Nat.not_lt_zero _)

/-- The operation that completes belongs to an older generation. -/
def Stale (s : Client) : Input → Prop
  | .onConnect place _ => ∃ generation ∈ s.connects[place]?, generation < s.connectionGeneration
  | .onWrite place outcome =>
      ∃ write ∈ s.writes[place]?, write.connection < s.connectionGeneration ∧
        (outcome = .ok → write.transferred = write.message.bytes.length)
  | .onRead place _ _ => ∃ generation ∈ s.reads[place]?, generation < s.connectionGeneration
  | _ => False

/-- The client without the operation that completes. -/
def completed (s : Client) : Input → Client
  | .onConnect place _ => { s with connects := s.connects.eraseIdx place }
  | .onWrite place _ => { s with writes := s.writes.eraseIdx place }
  | .onRead place _ _ => { s with reads := s.reads.eraseIdx place }
  | _ => s

/-- A completion of an older generation changes nothing. -/
theorem step_of_stale {input : Input} (hstale : s.Stale input) : Tcp.step s input = s.completed input := by
  cases input with
  | onConnect place outcome =>
      obtain ⟨generation, hplace, hlt⟩ := hstale
      simp only [Tcp.step, Option.mem_def.mp hplace, Client.onConnect, if_pos hlt.ne]
      rfl
  | onWrite place outcome =>
      obtain ⟨write, hplace, hlt, hall⟩ := hstale
      have hdone : ¬(outcome = .ok ∧ write.transferred ≠ write.message.bytes.length) :=
        fun hopen => hopen.2 (hall hopen.1)
      simp only [Tcp.step, Option.mem_def.mp hplace, if_neg hdone, Client.onWrite, if_pos hlt.ne]
      rfl
  | onRead place outcome data =>
      obtain ⟨generation, hplace, hlt⟩ := hstale
      simp only [Tcp.step, Option.mem_def.mp hplace, Client.onRead, if_pos hlt.ne]
      rfl
  | connect => cases hstale
  | send bytes => cases hstale
  | close closeError => cases hstale
  | transfer place count => cases hstale

/-- In order, once, on one connection. -/
structure SendsInOrder (s : Client) : Prop where
  single : s.inFlight.length ≤ 1
  front : ∀ write ∈ s.inFlight, s.writeQueue.head? = some write.message
  inOrder : ∀ connection, s.wire connection <+: s.enqueuedOn connection
  oneConnection : ∀ transfer ∈ s.transfers, transfer.origin = transfer.connection
  stale : ∀ input, s.Stale input → Tcp.step s input = s.completed input

theorem Ordered.sendsInOrder (h : s.Ordered) : s.SendsInOrder where
  single := by
    rcases h.front with hnone | ⟨write, rest, hone, -, -⟩
    · rw [hnone]
      exact Nat.zero_le 1
    · rw [hone]
      exact Nat.le_refl 1
  front := by
    intro write hwrite
    rcases h.front with hnone | ⟨other, rest, hone, hqueue, -⟩
    · exact absurd (hnone ▸ hwrite) List.not_mem_nil
    · obtain rfl := List.mem_singleton.mp (hone ▸ hwrite)
      rw [hqueue]
      rfl
  inOrder := h.prefix_enqueuedOn
  oneConnection := fun transfer htransfer => (h.transfers transfer htransfer).2
  stale := fun _ => step_of_stale

end Client

/-- Whatever comes in whatever order, the client sends in order, once, on one connection. -/
theorem run_sendsInOrder (inputs : List Input) : (run step {} inputs).SendsInOrder :=
  Client.Ordered.sendsInOrder (run_keeps (fun _ input h => h.step input) Client.ordered_init inputs)

/-- A message is cut off by a close; its write completes on the next connection, where only the
second message is sent. -/
example :
    let s := run step {} [.connect, .onConnect 0 .ok, .send [1, 2, 3], .transfer 0 2, .close false,
      .connect, .onConnect 0 .ok, .send [4], .onWrite 0 .aborted, .transfer 0 1]
    s.wire 1 = [1, 2] ∧ s.enqueuedOn 1 = [1, 2, 3] ∧ s.wire 3 = [4] := by
  decide +kernel

end LinuxPBS.Tcp

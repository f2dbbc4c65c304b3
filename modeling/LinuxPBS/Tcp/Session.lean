import Mathlib.Data.List.Nodup
import LinuxPBS.Tcp.AppTcpClient

/-!
# What the users of a connection hear

A session that comes up has an outstanding `async_connect`, and one that is up has an
outstanding read, so that its end does not go unnoticed (`Session`).  A piece of work on the I/O
thread then does one of four things, and says so through the handlers (`Turn`):

```text
the session goes on     at most a send or data is reported
it is up                connect(true)
it does not come up     connect(false)
it is over              ..., close
```

The one thing asked of the operating system is that an operation on the open socket is not given
back with `operation_aborted`: nobody has cancelled it.
-/

namespace LinuxPBS.Tcp

namespace Client

/-- The outstanding operations belong to the session. -/
structure Session (s : Client) : Prop where
  open_ : s.closing = false
  connects : s.connects.Nodup ∧ ∀ generation ∈ s.connects, generation ≤ s.connectionGeneration
  pending : s.connectionGeneration ∈ s.connects ↔ s.connecting = true
  connecting : s.connecting = true →
    s.connected = false ∧ s.socket = some s.connectionGeneration
  connected : s.connected = true →
    s.socket = some s.connectionGeneration ∧ s.connectionGeneration ∈ s.reads

/-- What the session depends on, the outstanding reads apart -/
def link (s : Client) : ℕ × Bool × Bool × Bool × Option ℕ × List ℕ :=
  (s.connectionGeneration, s.closing, s.connecting, s.connected, s.socket, s.connects)

/-- No operation on the open socket is aborted. -/
def Genuine (s : Client) : Input → Prop
  | .onConnect place .aborted => s.socket = none ∨ s.connects[place]? ≠ s.socket
  | .onWrite place .aborted =>
      s.socket = none ∨ s.writes[place]?.map (·.connection) ≠ s.socket
  | .onRead place .aborted _ => s.socket = none ∨ s.reads[place]? ≠ s.socket
  | _ => True

/-- What a piece of work does to the session, and what it reports. -/
inductive Turn (s t : Client) : List Report → Prop
  | goes {news : List Report} (hconnected : t.connected = s.connected)
      (hconnecting : s.connecting = true → t.connecting = true)
      (hnews : ∀ report ∈ news, report = .send true ∨ (∃ data, report = .receive true data) ∨
        report = .send false ∧ s.connected = false) : Turn s t news
  | opened (hconnected : t.connected = true) : Turn s t [.connect true]
  | refused (hconnected : t.connected = false) : Turn s t [.connect false]
  | left {front : List Report} (hfront : ∀ report ∈ front,
      report = .send false ∨ report = .receive false []) (success : Bool)
      (hconnected : t.connected = false) : Turn s t (front ++ [.close success])

/-- A piece of work, with what it has reported. -/
def Turns (s t : Client) : Prop :=
  t.Session ∧ ∃ news, t.reports = s.reports ++ news ∧ s.Turn t news

variable {s t : Client}

/-! ## The functions -/

theorem Session.of_same (h : s.Session) (hsame : t.link = s.link)
    (hreads : s.connected = true → s.connectionGeneration ∈ t.reads) : t.Session := by
  simp only [link, Prod.mk.injEq] at hsame
  obtain ⟨hgeneration, hclosing, hconnecting, hconnected, hsocket, hconnects⟩ := hsame
  refine ⟨?_, ?_, ?_, ?_, ?_⟩
  · rw [hclosing]
    exact h.open_
  · rw [hconnects, hgeneration]
    exact h.connects
  · rw [hconnects, hgeneration, hconnecting]
    exact h.pending
  · rw [hconnecting, hconnected, hsocket, hgeneration]
    exact h.connecting
  · rw [hconnected, hsocket, hgeneration]
    exact fun hup => ⟨(h.connected hup).1, hreads hup⟩

/-- No session is up or coming up. -/
theorem session_of_down (hclosing : t.closing = false) (hconnecting : t.connecting = false)
    (hconnected : t.connected = false)
    (hconnects : t.connects.Nodup ∧ ∀ generation ∈ t.connects, generation ≤ t.connectionGeneration)
    (hnone : t.connectionGeneration ∉ t.connects) : t.Session := by
  refine ⟨hclosing, hconnects, ⟨fun hmem => absurd hmem hnone, ?_⟩, ?_, ?_⟩
  · rw [hconnecting]
    exact fun htrue => by cases htrue
  · rw [hconnecting]
    exact fun htrue => by cases htrue
  · rw [hconnected]
    exact fun htrue => by cases htrue

/-- The next generation has no outstanding connect yet. -/
theorem Session.next (h : s.Session) : s.connects.Nodup ∧
    (∀ generation ∈ s.connects, generation ≤ s.connectionGeneration + 1) ∧
      s.connectionGeneration + 1 ∉ s.connects := by
  refine ⟨h.connects.1, fun generation hmem => ?_, fun hmem => ?_⟩
  · exact (h.connects.2 generation hmem).trans (Nat.le_succ _)
  · exact absurd (h.connects.2 _ hmem) (Nat.not_succ_le_self _)

theorem turns_connectOnIoThread (h : s.Session) : s.Turns s.connectOnIoThread := by
  unfold connectOnIoThread
  split_ifs with hbusy
  · exact ⟨h, [], (List.append_nil _).symm, .goes rfl id fun _ hmem => absurd hmem List.not_mem_nil⟩
  · rw [not_or] at hbusy
    obtain ⟨hnodup, hle, hnew⟩ := h.next
    have hdown : s.connected = false := eq_false_of_ne_true hbusy.1
    refine ⟨⟨rfl, ⟨?_, ?_⟩, ⟨fun _ => rfl, fun _ => ?_⟩, fun _ => ⟨rfl, rfl⟩, fun hup => ?_⟩, [],
      (List.append_nil _).symm, .goes hdown.symm (fun _ => rfl) fun _ hmem =>
        absurd hmem List.not_mem_nil⟩
    · exact List.Nodup.append hnodup (List.nodup_singleton _) (List.disjoint_singleton.mpr hnew)
    · intro generation hmem
      rcases List.mem_append.mp hmem with hold | hlast
      · exact hle generation hold
      · exact (List.mem_singleton.mp hlast).le
    · exact List.mem_append_right _ List.mem_cons_self
    · cases hup

/-- The session goes on, and nothing is reported. -/
theorem turns_of_same (h : s.Session) (hsame : t.link = s.link)
    (hreads : s.connected = true → s.connectionGeneration ∈ t.reads)
    (hreports : t.reports = s.reports) : s.Turns t := by
  have hsession := h.of_same hsame hreads
  simp only [link, Prod.mk.injEq] at hsame
  obtain ⟨-, -, hconnecting, hconnected, -⟩ := hsame
  refine ⟨hsession, [], ?_, .goes hconnected (fun hbusy => hconnecting.trans hbusy) fun _ hmem =>
    absurd hmem List.not_mem_nil⟩
  rw [hreports, List.append_nil]

theorem Session.report (h : s.Session) (report : Report) : (s.report report).Session :=
  h.of_same rfl fun hup => (h.connected hup).2

/-- A write is begun, or none is. -/
theorem session_startNextWrite (h : s.Session) (generation : ℕ) :
    (s.startNextWriteOnIoThread generation).Session ∧
      (s.startNextWriteOnIoThread generation).reports = s.reports ∧
      (s.startNextWriteOnIoThread generation).connected = s.connected ∧
      (s.startNextWriteOnIoThread generation).connecting = s.connecting := by
  unfold startNextWriteOnIoThread
  split_ifs
  · exact ⟨h, rfl, rfl, rfl⟩
  · split
    · exact ⟨h, rfl, rfl, rfl⟩
    · exact ⟨h.of_same rfl fun hup => (h.connected hup).2, rfl, rfl, rfl⟩

theorem turns_enqueueSendOnIoThread (h : s.Session) (bytes : List UInt8) :
    s.Turns (s.enqueueSendOnIoThread bytes) := by
  unfold enqueueSendOnIoThread
  by_cases hrefused : s.connected = false ∨ s.closing ∨ s.socket = none
  · rw [if_pos hrefused]
    refine ⟨h.report _, [.send false], rfl, .goes rfl id fun report hmem => ?_⟩
    have hdown : s.connected = false := by
      rcases hrefused with hdown | hclosing | hsocket
      · exact hdown
      · exact absurd hclosing (ne_of_eq_of_ne h.open_ Bool.false_ne_true)
      · refine eq_false_of_ne_true fun hup => ?_
        cases hsocket.symm.trans (h.connected hup).1
    exact .inr (.inr ⟨List.mem_singleton.mp hmem, hdown⟩)
  · rw [if_neg hrefused]
    dsimp only
    have hqueued : Session { s with
        writeQueue := s.writeQueue ++ [⟨s.connectionGeneration, bytes⟩]
        enqueued := s.enqueued ++ [⟨s.connectionGeneration, bytes⟩] } :=
      h.of_same rfl fun hup => (h.connected hup).2
    obtain ⟨hsession, hreports, hconnected, hconnecting⟩ :=
      session_startNextWrite hqueued s.connectionGeneration
    split_ifs
    · exact turns_of_same h rfl (fun hup => (h.connected hup).2) rfl
    · exact ⟨hsession, [], by rw [hreports, List.append_nil], .goes hconnected
        (fun hbusy => hconnecting.trans hbusy) fun _ hmem => absurd hmem List.not_mem_nil⟩

theorem turns_closeOnIoThread (h : s.Session) (closeError : Bool) :
    s.Turns (s.closeOnIoThread true closeError) := by
  have hdown : Session { s with
      connectionGeneration := s.connectionGeneration + 1, connecting := false, connected := false
      writeQueue := [], writeInProgress := false, socket := none, closing := false } :=
    session_of_down rfl rfl rfl ⟨h.next.1, h.next.2.1⟩ h.next.2.2
  unfold closeOnIoThread
  dsimp only
  rw [Bool.true_and]
  split_ifs with hactivity
  · exact ⟨hdown.report _, [.close !closeError], rfl,
      @Turn.left _ _ [] (fun _ hmem => absurd hmem List.not_mem_nil) _ rfl⟩
  · rw [Bool.or_eq_true, Bool.or_eq_true, not_or, not_or] at hactivity
    have hconnected : s.connected = false := eq_false_of_ne_true hactivity.2
    exact ⟨hdown, [], (List.append_nil _).symm, .goes hconnected.symm
      (fun hbusy => absurd hbusy hactivity.1.2) fun _ hmem => absurd hmem List.not_mem_nil⟩

/-- A session is over, behind something that has been reported. -/
theorem turns_handleTransportFailure (h : s.Session) (t : Client) {front : List Report}
    (hfront : ∀ report ∈ front, report = .send false ∨ report = .receive false [])
    (hreports : t.reports = s.reports ++ front)
    (hgeneration : t.connectionGeneration = s.connectionGeneration)
    (hconnects : t.connects = s.connects) (notifyReceiveHandler : Bool) :
    s.Turns (t.handleTransportFailureOnIoThread notifyReceiveHandler) := by
  have hdown : (t.handleTransportFailureOnIoThread notifyReceiveHandler).Session := by
    have hafter : Session { t with
        connectionGeneration := t.connectionGeneration + 1, connecting := false, closing := false
        connected := false, writeQueue := [], writeInProgress := false, socket := none } := by
      refine session_of_down rfl rfl rfl ?_ ?_
      · dsimp only
        rw [hgeneration, hconnects]
        exact ⟨h.next.1, h.next.2.1⟩
      · dsimp only
        rw [hgeneration, hconnects]
        exact h.next.2.2
    cases notifyReceiveHandler with
    | false => exact hafter.report _
    | true => exact (hafter.report _).report _
  have hconnected :
      (t.handleTransportFailureOnIoThread notifyReceiveHandler).connected = false := by
    cases notifyReceiveHandler <;> rfl
  cases notifyReceiveHandler with
  | false =>
      refine ⟨hdown, front ++ [.close false], ?_, .left hfront false hconnected⟩
      show t.reports ++ [_] = _
      rw [hreports, List.append_assoc]
  | true =>
      refine ⟨hdown, front ++ [.receive false []] ++ [.close false], ?_,
        .left (fun report hmem => ?_) false hconnected⟩
      · show t.reports ++ [_] ++ [_] = _
        rw [hreports, List.append_assoc, List.append_assoc, List.append_assoc]
      · rcases List.mem_append.mp hmem with hold | hnew
        · exact hfront report hold
        · exact .inr (List.mem_singleton.mp hnew)

/-! ## The completions -/

/-- The other outstanding operations stay. -/
theorem mem_eraseIdx_of_ne {α : Type} {list : List α} {place : ℕ} {value other : α}
    (hplace : list[place]? = some value) (hmem : other ∈ list) (hne : other ≠ value) :
    other ∈ list.eraseIdx place := by
  obtain ⟨index, hindex⟩ := List.mem_iff_getElem?.mp hmem
  refine List.mem_eraseIdx_iff_getElem?.mpr ⟨index, fun hsame => hne ?_, hindex⟩
  rw [hsame] at hindex
  exact Option.some.inj (hindex.symm.trans hplace)

theorem notMem_eraseIdx {list : List ℕ} {place value : ℕ} (hnodup : list.Nodup)
    (hplace : list[place]? = some value) : value ∉ list.eraseIdx place := by
  intro hmem
  obtain ⟨index, hne, hindex⟩ := List.mem_eraseIdx_iff_getElem?.mp hmem
  obtain ⟨hlt, hvalue⟩ := List.getElem?_eq_some_iff.mp hindex
  obtain ⟨hlt', hvalue'⟩ := List.getElem?_eq_some_iff.mp hplace
  exact hne (hnodup.getElem_inj_iff.mp (hvalue.trans hvalue'.symm))

theorem turns_onConnect (h : s.Session) {place generation : ℕ}
    (hplace : s.connects[place]? = some generation) (outcome : Outcome) :
    s.Turns ({ s with connects := s.connects.eraseIdx place }.onConnect generation outcome) := by
  have herased : (s.connects.eraseIdx place).Nodup ∧
      ∀ other ∈ s.connects.eraseIdx place, other ≤ s.connectionGeneration :=
    ⟨h.connects.1.sublist (List.eraseIdx_sublist _ _),
      fun other hmem => h.connects.2 other (List.mem_of_mem_eraseIdx hmem)⟩
  unfold onConnect
  by_cases hstale : generation ≠ s.connectionGeneration
  · rw [if_pos hstale]
    have hpending : s.connectionGeneration ∈ s.connects.eraseIdx place ↔ s.connecting = true :=
      ⟨fun hmem => h.pending.mp (List.mem_of_mem_eraseIdx hmem), fun hbusy =>
        mem_eraseIdx_of_ne hplace (h.pending.mpr hbusy) hstale.symm⟩
    exact ⟨⟨h.open_, herased, hpending, h.connecting, h.connected⟩, [],
      (List.append_nil _).symm, .goes rfl id fun _ hmem => absurd hmem List.not_mem_nil⟩
  · rw [if_neg hstale]
    obtain rfl := not_not.mp hstale
    have hover : s.connectionGeneration ∉ s.connects.eraseIdx place :=
      notMem_eraseIdx h.connects.1 hplace
    obtain ⟨-, hsocket⟩ := h.connecting (h.pending.mp (List.mem_of_getElem? hplace))
    dsimp only
    by_cases hfailed : outcome ≠ .ok
    · rw [if_pos hfailed, if_neg]
      · have hdown : Session (Client.closeSocketNoThrow { s with
            connects := s.connects.eraseIdx place, connecting := false, connected := false }) :=
          session_of_down h.open_ rfl rfl herased hover
        exact ⟨hdown.report _, [.connect false], rfl, .refused rfl⟩
      · rintro ⟨-, hclosing⟩
        exact absurd hclosing (ne_of_eq_of_ne h.open_ Bool.false_ne_true)
    · rw [if_neg hfailed]
      unfold startAsyncReceiveOnIoThread
      rw [if_neg]
      · refine ⟨⟨h.open_, herased, ⟨fun hmem => absurd hmem hover, fun hbusy => ?_⟩,
          fun hbusy => ?_, fun _ => ⟨hsocket, List.mem_append_right _ List.mem_cons_self⟩⟩,
          [.connect true], rfl, .opened rfl⟩
        · cases hbusy
        · cases hbusy
      · rintro (hne | hclosing | hdown | hnone)
        · exact hne rfl
        · exact absurd hclosing (ne_of_eq_of_ne h.open_ Bool.false_ne_true)
        · cases hdown
        · cases hnone.symm.trans hsocket

theorem turns_onWrite (h : s.Session) (place generation : ℕ) (outcome : Outcome) :
    s.Turns ({ s with writes := s.writes.eraseIdx place }.onWrite generation outcome) := by
  unfold onWrite
  by_cases hstale : generation ≠ s.connectionGeneration
  · rw [if_pos hstale]
    exact turns_of_same h rfl (fun hup => (h.connected hup).2) rfl
  · rw [if_neg hstale]
    dsimp only
    by_cases hfailed : outcome ≠ .ok
    · rw [if_pos hfailed, if_neg]
      · have hfailure : ∀ report ∈ [Report.send false],
            report = .send false ∨ report = .receive false [] :=
          fun report hmem => .inl (List.mem_singleton.mp hmem)
        exact turns_handleTransportFailure h
          (Client.report { s with writes := s.writes.eraseIdx place, writeInProgress := false }
            (.send false)) hfailure rfl rfl rfl false
      · rintro ⟨-, hclosing⟩
        exact absurd hclosing (ne_of_eq_of_ne h.open_ Bool.false_ne_true)
    · rw [if_neg hfailed]
      have hpopped : Session (Client.report { s with
          writes := s.writes.eraseIdx place, writeInProgress := false
          writeQueue := s.writeQueue.tail } (.send true)) :=
        h.of_same rfl fun hup => (h.connected hup).2
      obtain ⟨hsession, hreports, hconnected, hconnecting⟩ :=
        session_startNextWrite hpopped generation
      exact ⟨hsession, [.send true], hreports, .goes hconnected
        (fun hbusy => hconnecting.trans hbusy) fun report hmem => .inl (List.mem_singleton.mp hmem)⟩

theorem turns_onRead (h : s.Session) {place generation : ℕ}
    (hplace : s.reads[place]? = some generation) {outcome : Outcome} (data : List UInt8)
    (hgenuine : s.Genuine (.onRead place outcome data)) :
    s.Turns ({ s with reads := s.reads.eraseIdx place }.onRead generation outcome data) := by
  unfold onRead
  by_cases hstale : generation ≠ s.connectionGeneration
  · rw [if_pos hstale]
    exact turns_of_same h rfl
      (fun hup => mem_eraseIdx_of_ne hplace (h.connected hup).2 hstale.symm) rfl
  · rw [if_neg hstale]
    obtain rfl := not_not.mp hstale
    cases outcome with
    | aborted =>
        refine turns_of_same h rfl (fun hup => ?_) rfl
        have hsocket := (h.connected hup).1
        rcases hgenuine with hnone | hne
        · cases hnone.symm.trans hsocket
        · exact absurd (hplace.trans hsocket.symm) hne
    | failed =>
        exact turns_handleTransportFailure h { s with reads := s.reads.eraseIdx place }
          (fun _ hmem => absurd hmem List.not_mem_nil) (List.append_nil _).symm rfl rfl true
    | ok =>
        dsimp only
        have hgoes (u : Client) (hsame : u.link = s.link) {news : List Report}
            (hreports : u.reports = s.reports ++ news)
            (hnews : ∀ report ∈ news, ∃ data, report = .receive true data) :
            s.Turns (u.startAsyncReceiveOnIoThread s.connectionGeneration) := by
          have hlink := hsame
          simp only [link, Prod.mk.injEq] at hlink
          obtain ⟨hgeneration, hclosing, hconnecting, hconnected, hsocket, -⟩ := hlink
          have hreads : ∃ reads, u.startAsyncReceiveOnIoThread s.connectionGeneration =
              { u with reads := reads } ∧
              (s.connected = true → s.connectionGeneration ∈ reads) := by
            unfold startAsyncReceiveOnIoThread
            split_ifs with hnone
            · refine ⟨u.reads, rfl, fun hup => ?_⟩
              rw [hgeneration, hclosing, hconnected, hsocket, h.open_, hup,
                (h.connected hup).1] at hnone
              simp at hnone
            · exact ⟨_, rfl, fun _ => List.mem_append_right _ List.mem_cons_self⟩
          obtain ⟨reads, hafter, hmem⟩ := hreads
          rw [hafter]
          exact ⟨h.of_same hsame hmem, news, hreports, .goes hconnected
            (fun hbusy => hconnecting.trans hbusy) fun report hin =>
              .inr (.inl (hnews report hin))⟩
        split_ifs
        · exact hgoes _ rfl (List.append_nil _).symm
            fun _ hmem => absurd hmem List.not_mem_nil
        · exact hgoes _ rfl rfl
            fun report hmem => ⟨data, List.mem_singleton.mp hmem⟩

/-- A piece of work turns the session. -/
theorem turns_step (h : s.Session) (input : Input) (hgenuine : s.Genuine input) :
    s.Turns (step s input) := by
  have hsame : s.Turns s :=
    turns_of_same h rfl (fun hup => (h.connected hup).2) rfl
  cases input with
  | connect => exact turns_connectOnIoThread h
  | send bytes => exact turns_enqueueSendOnIoThread h bytes
  | close closeError => exact turns_closeOnIoThread h closeError
  | onConnect place outcome =>
      simp only [Tcp.step]
      split
      next => exact hsame
      next generation hplace => exact turns_onConnect h hplace outcome
  | onWrite place outcome =>
      simp only [Tcp.step]
      split
      next => exact hsame
      next write _ =>
        split_ifs
        · exact hsame
        · exact turns_onWrite h place write.connection outcome
  | onRead place outcome data =>
      simp only [Tcp.step]
      split
      next => exact hsame
      next generation hplace => exact turns_onRead h hplace data hgenuine
  | transfer place count =>
      simp only [Tcp.step]
      split
      next => exact hsame
      next write _ =>
        unfold Client.transfer
        split_ifs
        · exact turns_of_same h rfl (fun hup => (h.connected hup).2) rfl
        · exact hsame

theorem session_init : Session {} :=
  session_of_down rfl rfl rfl ⟨List.nodup_nil, fun _ hmem => absurd hmem List.not_mem_nil⟩
    List.not_mem_nil

end Client

end LinuxPBS.Tcp

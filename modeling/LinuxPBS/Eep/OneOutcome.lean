import Mathlib.Data.List.Nodup
import LinuxPBS.Eep.Client

/-!
# One outcome for a request of the EEP client

`currentCmdRequested_` is the request that was dequeued last.  It is kept when the
request is over, and a write time-out, an ACK or response time-out and a reconnect
raise their failure for it whatever has become of it.  That is right as long as the
client leaves `WRITING_REQUEST` and `WAITING_FOR_RESPONSE` with the outcome.

Two invariants say when it does.  `Books` is about the numbers: every queued command
has a number of its own that no entry of the log mentions, and the request that is
remembered is the last one dequeued.  `Engaged` is about the automaton: while a
request is being written or waited for it has no outcome yet, or an event that leaves
`WAITING_FOR_RESPONSE` without a failure stands in front of all that leave it with
one.  A step is `Regular` if it does not spoil the second; `oneOutcome_of_regular`
goes through the runs.
-/

namespace LinuxPBS.Eep

open Machine

/-! ## What the log says -/

/-- The request that an entry ends. -/
def Outcome.ends : Outcome → Option ℕ
  | .completed cmd => some cmd.sequence
  | .failure cmd _ => some cmd.sequence
  | _ => none

/-- The request that an entry is about, as far as outcomes go. -/
def Outcome.mentions : Outcome → Option ℕ
  | .dequeued cmd => some cmd.sequence
  | .completed cmd => some cmd.sequence
  | .failure cmd _ => some cmd.sequence
  | _ => none

/-- The requests that are over, each as often as it has had an outcome. -/
def ended (log : List Outcome) : List ℕ := log.filterMap Outcome.ends

/-- The requests the log mentions. -/
def mentioned (log : List Outcome) : List ℕ := log.filterMap Outcome.mentions

/-- The request that was dequeued last. -/
def lastDequeued : List Outcome → Option Command
  | [] => none
  | .dequeued cmd :: _ => some cmd
  | _ :: older => lastDequeued older

/-- The request was dequeued last and has had no outcome. -/
def Outstanding (log : List Outcome) (cmd : Command) : Prop :=
  lastDequeued log = some cmd ∧ cmd.sequence ∉ ended log

/-- No failure is raised for a request that is over, and no time-out for one that is not
outstanding. -/
def OneOutcome : List Outcome → Prop
  | [] => True
  | .failure cmd status :: older =>
      cmd.sequence ∉ ended older ∧ (status ≠ .sendFailed → Outstanding older cmd) ∧
        OneOutcome older
  | _ :: older => OneOutcome older

instance decidableOneOutcome : ∀ log, Decidable (OneOutcome log)
  | [] => inferInstanceAs (Decidable True)
  | entry :: older =>
      haveI := decidableOneOutcome older
      match entry with
      | .failure cmd status => inferInstanceAs (Decidable (cmd.sequence ∉ ended older ∧
          (status ≠ .sendFailed → lastDequeued older = some cmd ∧ cmd.sequence ∉ ended older) ∧
            OneOutcome older))
      | .dequeued _ | .handled _ _ | .acknowledged _ | .completed _ | .sentAck _ _
      | .sentNak _ _ _ | .rejected _ _ | .connectionState _ =>
          inferInstanceAs (Decidable (OneOutcome older))

/-- The same, and if `strict` no request that is over is completed. -/
def Once (strict : Prop) : List Outcome → Prop
  | [] => True
  | .failure cmd status :: older =>
      cmd.sequence ∉ ended older ∧ (status ≠ .sendFailed → Outstanding older cmd) ∧
        Once strict older
  | .completed cmd :: older => (strict → cmd.sequence ∉ ended older) ∧ Once strict older
  | _ :: older => Once strict older

theorem Once.oneOutcome {strict : Prop} {log : List Outcome} (honce : Once strict log) :
    OneOutcome log := by
  induction log with
  | nil => trivial
  | cons entry older ih =>
      cases entry with
      | failure cmd status => exact ⟨honce.1, honce.2.1, ih honce.2.2⟩
      | completed cmd => exact ih honce.2
      | _ => exact ih honce

/-- Strictly, a request has one outcome at most. -/
theorem Once.nodup_ended {log : List Outcome} (honce : Once True log) : (ended log).Nodup := by
  induction log with
  | nil => exact List.nodup_nil
  | cons entry older ih =>
      cases entry with
      | failure cmd status => exact List.nodup_cons.mpr ⟨honce.1, ih honce.2.2⟩
      | completed cmd => exact List.nodup_cons.mpr ⟨honce.1 trivial, ih honce.2⟩
      | _ => exact ih honce

/-- The entries that say something about the outcomes. -/
def record (log : List Outcome) : List Outcome := log.filter fun entry => entry.mentions.isSome

@[simp] theorem ended_nil : ended [] = [] := rfl

@[simp] theorem ended_completed (cmd : Command) (older : List Outcome) :
    ended (.completed cmd :: older) = cmd.sequence :: ended older := rfl

@[simp] theorem ended_failure (cmd : Command) (status : MsgStatus) (older : List Outcome) :
    ended (.failure cmd status :: older) = cmd.sequence :: ended older := rfl

@[simp] theorem ended_dequeued (cmd : Command) (older : List Outcome) :
    ended (.dequeued cmd :: older) = ended older := rfl

@[simp] theorem mentioned_completed (cmd : Command) (older : List Outcome) :
    mentioned (.completed cmd :: older) = cmd.sequence :: mentioned older := rfl

@[simp] theorem mentioned_failure (cmd : Command) (status : MsgStatus) (older : List Outcome) :
    mentioned (.failure cmd status :: older) = cmd.sequence :: mentioned older := rfl

@[simp] theorem mentioned_dequeued (cmd : Command) (older : List Outcome) :
    mentioned (.dequeued cmd :: older) = cmd.sequence :: mentioned older := rfl

theorem record_cons_of_none {entry : Outcome} (hentry : entry.mentions = none)
    (log : List Outcome) : record (entry :: log) = record log := by
  simp [record, hentry]

theorem record_cons_of_some {entry : Outcome} {number : ℕ} (hentry : entry.mentions = some number)
    (log : List Outcome) : record (entry :: log) = entry :: record log := by
  simp [record, hentry]

/-- An entry that mentions no request changes nothing that is said about the outcomes. -/
theorem neutral_cons (strict : Prop) {entry : Outcome} (hentry : entry.mentions = none) (log : List Outcome) :
    ended (entry :: log) = ended log ∧ mentioned (entry :: log) = mentioned log ∧
      lastDequeued (entry :: log) = lastDequeued log ∧
      (Once strict (entry :: log) ↔ Once strict log) := by
  cases entry with
  | dequeued _ | completed _ | failure _ _ => cases hentry
  | _ => exact ⟨rfl, rfl, rfl, Iff.rfl⟩

/-- The record says all there is about the outcomes. -/
theorem record_spec (strict : Prop) (log : List Outcome) :
    ended (record log) = ended log ∧ mentioned (record log) = mentioned log ∧
      lastDequeued (record log) = lastDequeued log ∧
      (Once strict (record log) ↔ Once strict log) := by
  induction log with
  | nil => exact ⟨rfl, rfl, rfl, Iff.rfl⟩
  | cons entry older ih =>
      obtain ⟨hended, hmentioned, hlast, hone⟩ := ih
      cases hentry : entry.mentions with
      | none =>
          obtain ⟨hended', hmentioned', hlast', hone'⟩ := neutral_cons strict hentry older
          rw [record_cons_of_none hentry, hended', hmentioned', hlast', hone']
          exact ⟨hended, hmentioned, hlast, hone⟩
      | some number =>
          rw [record_cons_of_some hentry]
          cases entry with
          | dequeued cmd => exact ⟨hended, congrArg (List.cons _) hmentioned, rfl, hone⟩
          | completed cmd =>
              refine ⟨congrArg (List.cons _) hended, congrArg (List.cons _) hmentioned, hlast, ?_⟩
              simp only [Once, hended, hone]
          | failure cmd status =>
              refine ⟨congrArg (List.cons _) hended, congrArg (List.cons _) hmentioned, hlast, ?_⟩
              simp only [Once, Outstanding, hended, hlast, hone]
          | _ => cases hentry

/-- What is over has been mentioned. -/
theorem ended_subset_mentioned (log : List Outcome) : ended log ⊆ mentioned log := by
  intro number hended
  obtain ⟨entry, hentry, hnumber⟩ := List.mem_filterMap.mp hended
  refine List.mem_filterMap.mpr ⟨entry, hentry, ?_⟩
  cases entry <;> first | exact hnumber | cases hnumber

theorem mem_mentioned_of_lastDequeued {log : List Outcome} {cmd : Command}
    (hlast : lastDequeued log = some cmd) : cmd.sequence ∈ mentioned log := by
  induction log with
  | nil => cases hlast
  | cons entry older ih =>
      cases entry with
      | dequeued other =>
          obtain rfl := Option.some.inj hlast
          exact List.mem_filterMap.mpr ⟨_, List.mem_cons_self, rfl⟩
      | _ =>
          obtain ⟨found, hfound, hnumber⟩ := List.mem_filterMap.mp (ih hlast)
          exact List.mem_filterMap.mpr ⟨found, List.mem_cons_of_mem _ hfound, hnumber⟩

namespace Client

/-! ## What most functions leave alone -/

/-- The outcomes so far, the queue and the remembered request. -/
def ledger (c : Client) : List Outcome × List Command × ℕ × Command :=
  (record c.log, c.commandQueue, c.commandSequence, c.currentCmdRequested)

/-- Nothing but handlers at the end of the queue, and what takes no part in the outcomes. -/
def Quiet (c d : Client) : Prop :=
  d.ledger = c.ledger ∧ d.currentState = c.currentState ∧ d.currentCmd = c.currentCmd ∧
    (d.expectedResponseSeqNo = c.expectedResponseSeqNo ∨ d.expectedResponseSeqNo = none) ∧
    ∃ more, d.posted = c.posted ++ more

variable {c d : Client} {strict : Prop}

theorem Quiet.refl (c : Client) : Quiet c c :=
  ⟨rfl, rfl, rfl, .inl rfl, [], (List.append_nil _).symm⟩

theorem Quiet.post (hquiet : Quiet c d) (handler : Handler) : Quiet c (d.post handler) := by
  obtain ⟨hledger, hstate, hcmd, hexpected, more, hposted⟩ := hquiet
  refine ⟨hledger, hstate, hcmd, hexpected, more ++ [handler], ?_⟩
  show d.posted ++ [handler] = _
  rw [hposted, List.append_assoc]

theorem Quiet.processEvent (hquiet : Quiet c d) (event : Event) : Quiet c (d.processEvent event) :=
  hquiet.post _

theorem Quiet.enqueueCommand (hquiet : Quiet c d) (type : CommandType) (priority : ℕ)
    (data : Option CommandData) : Quiet c (d.enqueueCommand type priority data) :=
  hquiet.post _

theorem Quiet.start (hquiet : Quiet c d) (timer : Timer) : Quiet c (d.start timer) := hquiet

theorem Quiet.cancel (hquiet : Quiet c d) (timer : Timer) : Quiet c (d.cancel timer) := hquiet

theorem Quiet.note (hquiet : Quiet c d) {entry : Outcome} (hentry : entry.mentions = none) :
    Quiet c (d.note entry) := by
  obtain ⟨hledger, hrest⟩ := hquiet
  refine ⟨?_, hrest⟩
  rw [← hledger]
  simp [ledger, Client.note, record_cons_of_none hentry]

theorem Quiet.unexpect (hquiet : Quiet c d) : Quiet c { d with expectedResponseSeqNo := none } := by
  obtain ⟨hledger, hstate, hcmd, -, hposted⟩ := hquiet
  exact ⟨hledger, hstate, hcmd, .inr rfl, hposted⟩

theorem Quiet.sendAck (hquiet : Quiet c d) (seqNo : UInt16) (code : UInt8) :
    Quiet c (d.sendAck seqNo code) :=
  (hquiet.note rfl).enqueueCommand _ _ _

theorem Quiet.sendNak (hquiet : Quiet c d) (seqNo : UInt16) (code reasonCode : UInt8) :
    Quiet c (d.sendNak seqNo code reasonCode) :=
  (hquiet.note rfl).enqueueCommand _ _ _

theorem Quiet.notifyConnectionState (hquiet : Quiet c d) (connected : Bool) :
    Quiet c (d.notifyConnectionState connected) := by
  unfold Client.notifyConnectionState
  split_ifs
  · exact hquiet.note rfl
  · exact hquiet

theorem Quiet.checkCommandQueue (hquiet : Quiet c d) : Quiet c d.checkCommandQueue := by
  unfold Client.checkCommandQueue
  split_ifs
  · exact hquiet
  · exact hquiet.processEvent _
  · exact hquiet

theorem Quiet.startWatchdogTimer (hquiet : Quiet c d) : Quiet c d.startWatchdogTimer :=
  ((hquiet.cancel _).enqueueCommand _ _ _).start _

theorem Quiet.startHealthStatusTimer (hquiet : Quiet c d) : Quiet c d.startHealthStatusTimer :=
  ((hquiet.cancel _).enqueueCommand _ _ _).start _

theorem Quiet.runExpired (hquiet : Quiet c d) (timer : Timer) : Quiet c (d.runExpired timer) := by
  cases timer with
  | watchdog => exact hquiet.startWatchdogTimer
  | healthStatus => exact hquiet.startHealthStatusTimer
  | _ => exact hquiet.processEvent _

theorem Quiet.clientSend (hquiet : Quiet c d) (message : List UInt8) :
    Quiet c (d.clientSend message) := by
  unfold Client.clientSend
  split_ifs
  · exact hquiet.post _
  · exact hquiet

theorem Quiet.clientConnect (hquiet : Quiet c d) : Quiet c d.clientConnect := by
  unfold Client.clientConnect
  split_ifs
  · exact hquiet
  · exact hquiet

theorem Quiet.handleConnectingState (hquiet : Quiet c d) (event : Event) :
    Quiet c (d.handleConnectingState event) := by
  unfold Client.handleConnectingState
  split_ifs
  · exact (((hquiet.notifyConnectionState _).enqueueCommand _ _ _).startHealthStatusTimer
      |>.startWatchdogTimer).processEvent _
  · exact (hquiet.notifyConnectionState _).start _
  · exact hquiet

/-- A command without a failure event only counts a missed watchdog, or asks for a reconnect. -/
theorem Quiet.handleCommandErrorOrTimeout (hquiet : Quiet c d) {cmd : Command}
    (hcmd : cmd.type.raisesFailure = false) (status : MsgStatus) :
    Quiet c (d.handleCommandErrorOrTimeout cmd status) := by
  unfold Client.handleCommandErrorOrTimeout
  split_ifs with hwatchdog hmissed hraises
  · exact hquiet.processEvent _
  · exact hquiet
  · exact absurd hraises (by simp [hcmd])
  · exact hquiet

theorem handleCommandErrorOrTimeout_of_raises {cmd : Command} (hcmd : cmd.type.raisesFailure)
    (status : MsgStatus) :
    c.handleCommandErrorOrTimeout cmd status = c.note (.failure cmd status) := by
  have hwatchdog : cmd.type ≠ .watchdogReqCmd := by
    intro heq
    rw [heq] at hcmd
    cases hcmd
  unfold Client.handleCommandErrorOrTimeout
  rw [if_neg hwatchdog, if_pos hcmd]

/-! ## The books -/

/-- Every queued command has a number of its own that has not been mentioned, and the request
that is remembered is the last one dequeued. -/
structure Books (strict : Prop) (c : Client) : Prop where
  fresh : ∀ cmd ∈ c.commandQueue,
    cmd.sequence < c.commandSequence ∧ cmd.sequence ∉ mentioned c.log
  distinct : (c.commandQueue.map Command.sequence).Nodup
  below : ∀ number ∈ mentioned c.log, number < c.commandSequence
  requested : lastDequeued c.log = some c.currentCmdRequested ∨
    (lastDequeued c.log = none ∧ c.currentCmdRequested.type = .watchdogReqCmd ∧
      c.expectedResponseSeqNo = none)
  outcome : Once strict c.log

/-- The remembered request has had an outcome. -/
def Over (c : Client) : Prop := c.currentCmdRequested.sequence ∈ ended c.log

theorem same_log (strict : Prop) (hledger : d.ledger = c.ledger) :
    ended d.log = ended c.log ∧ mentioned d.log = mentioned c.log ∧
      lastDequeued d.log = lastDequeued c.log ∧ (Once strict d.log ↔ Once strict c.log) := by
  have hrecord : record d.log = record c.log := congrArg Prod.fst hledger
  obtain ⟨hended, hmentioned, hlast, hone⟩ := record_spec strict d.log
  rw [hrecord] at hended hmentioned hlast hone
  obtain ⟨hended', hmentioned', hlast', hone'⟩ := record_spec strict c.log
  exact ⟨hended.symm.trans hended', hmentioned.symm.trans hmentioned', hlast.symm.trans hlast',
    hone.symm.trans hone'⟩

theorem same_requested (hledger : d.ledger = c.ledger) :
    d.currentCmdRequested = c.currentCmdRequested :=
  congrArg (fun ledger => ledger.2.2.2) hledger

theorem over_congr (hledger : d.ledger = c.ledger) : d.Over ↔ c.Over := by
  unfold Over
  rw [(same_log True hledger).1, same_requested hledger]

/-- The books depend on the ledger, and as long as nothing was dequeued on nothing being
expected. -/
theorem Books.congr (hbooks : Books strict c) (hledger : d.ledger = c.ledger)
    (hexpected : lastDequeued c.log = some c.currentCmdRequested ∨
      d.expectedResponseSeqNo = c.expectedResponseSeqNo ∨ d.expectedResponseSeqNo = none) :
    Books strict d := by
  have hqueue : d.commandQueue = c.commandQueue := congrArg (fun ledger => ledger.2.1) hledger
  have hnext : d.commandSequence = c.commandSequence :=
    congrArg (fun ledger => ledger.2.2.1) hledger
  have hrequested := same_requested hledger
  obtain ⟨-, hmentioned, hlast, hone⟩ := same_log strict hledger
  refine ⟨?_, ?_, ?_, ?_, hone.mpr hbooks.outcome⟩
  · rw [hqueue, hnext, hmentioned]
    exact hbooks.fresh
  · rw [hqueue]
    exact hbooks.distinct
  · rw [hmentioned, hnext]
    exact hbooks.below
  · rw [hlast, hrequested]
    rcases hexpected with hdequeued | hexpected
    · exact .inl hdequeued
    · refine hbooks.requested.imp id ?_
      rintro ⟨hnone, htype, hnothing⟩
      refine ⟨hnone, htype, ?_⟩
      rcases hexpected with hsame | hnone
      · rw [hsame, hnothing]
      · exact hnone

theorem Books.quiet (hbooks : Books strict c) (hquiet : Quiet c d) : Books strict d :=
  hbooks.congr hquiet.1 (.inr hquiet.2.2.2.1)

/-- The state and the current command take no part in the books. -/
theorem Books.enter (hbooks : Books strict c) (next : State) : Books strict (c.enter next) := by
  have hstate : Books strict { c with currentState := next } :=
    ⟨hbooks.fresh, hbooks.distinct, hbooks.below, hbooks.requested, hbooks.outcome⟩
  unfold Client.enter
  split_ifs
  · exact hstate.quiet ((Quiet.refl _).post _)
  · exact hstate

/-- One more outcome of a request that is not queued. -/
theorem Books.note (hbooks : Books strict c) {entry : Outcome} {cmd : Command}
    (hentry : entry = .completed cmd ∨ ∃ status, entry = .failure cmd status)
    (honce : Once strict (entry :: c.log)) (hbelow : cmd.sequence < c.commandSequence)
    (hqueue : ∀ other ∈ c.commandQueue, other.sequence ≠ cmd.sequence) :
    Books strict (c.note entry) := by
  have hmentioned : mentioned (entry :: c.log) = cmd.sequence :: mentioned c.log := by
    rcases hentry with rfl | ⟨status, rfl⟩
    · rfl
    · rfl
  have hlast : lastDequeued (entry :: c.log) = lastDequeued c.log := by
    rcases hentry with rfl | ⟨status, rfl⟩
    · rfl
    · rfl
  refine ⟨fun other hother => ⟨(hbooks.fresh other hother).1, ?_⟩, hbooks.distinct, ?_, ?_, honce⟩
  · show other.sequence ∉ mentioned (entry :: c.log)
    rw [hmentioned, List.mem_cons, not_or]
    exact ⟨hqueue other hother, (hbooks.fresh other hother).2⟩
  · show ∀ number ∈ mentioned (entry :: c.log), number < c.commandSequence
    rw [hmentioned, List.forall_mem_cons]
    exact ⟨hbelow, hbooks.below⟩
  · show lastDequeued (entry :: c.log) = _ ∨ lastDequeued (entry :: c.log) = _ ∧ _
    rw [hlast]
    exact hbooks.requested

theorem Books.requested_not_queued (hbooks : Books strict c)
    (hlast : lastDequeued c.log = some c.currentCmdRequested) :
    c.currentCmdRequested.sequence < c.commandSequence ∧
      ∀ other ∈ c.commandQueue, other.sequence ≠ c.currentCmdRequested.sequence := by
  have hmentioned := mem_mentioned_of_lastDequeued hlast
  refine ⟨hbooks.below _ hmentioned, fun other hother heq => ?_⟩
  exact (hbooks.fresh other hother).2 (heq ▸ hmentioned)

theorem Books.lastDequeued_of_raises (hbooks : Books strict c)
    (hraises : c.currentCmdRequested.type.raisesFailure) :
    lastDequeued c.log = some c.currentCmdRequested := by
  rcases hbooks.requested with hlast | ⟨-, htype, -⟩
  · exact hlast
  · rw [htype] at hraises
    cases hraises

/-- The remembered request fails, and is not over yet. -/
theorem Books.failRequested (hbooks : Books strict c)
    (hopen : c.currentCmdRequested.type.raisesFailure → ¬c.Over) (status : MsgStatus) :
    Books strict (c.handleCommandErrorOrTimeout c.currentCmdRequested status) := by
  cases hraises : c.currentCmdRequested.type.raisesFailure with
  | false => exact hbooks.quiet ((Quiet.refl c).handleCommandErrorOrTimeout hraises status)
  | true =>
      have hlast := hbooks.lastDequeued_of_raises hraises
      obtain ⟨hbelow, hqueue⟩ := hbooks.requested_not_queued hlast
      rw [handleCommandErrorOrTimeout_of_raises hraises]
      exact hbooks.note (.inr ⟨status, rfl⟩)
        ⟨hopen hraises, fun _ => ⟨hlast, hopen hraises⟩, hbooks.outcome⟩ hbelow hqueue

theorem Books.failRequested_quiet (hbooks : Books strict c) (hquiet : Quiet c d)
    (hopen : c.currentCmdRequested.type.raisesFailure → ¬c.Over) (status : MsgStatus) :
    Books strict (d.handleCommandErrorOrTimeout d.currentCmdRequested status) := by
  refine (hbooks.quiet hquiet).failRequested (fun hraises hover => ?_) status
  rw [same_requested hquiet.1] at hraises
  exact hopen hraises ((over_congr hquiet.1).mp hover)

/-- A command that has just left the queue fails. -/
theorem Books.failUnsent (hbooks : Books strict c) {cmd : Command}
    (hbelow : cmd.sequence < c.commandSequence) (hnot : cmd.sequence ∉ mentioned c.log)
    (hqueue : ∀ other ∈ c.commandQueue, other.sequence ≠ cmd.sequence) :
    Books strict (c.handleCommandErrorOrTimeout cmd .sendFailed) := by
  cases hraises : cmd.type.raisesFailure with
  | false => exact hbooks.quiet ((Quiet.refl c).handleCommandErrorOrTimeout hraises _)
  | true =>
      rw [handleCommandErrorOrTimeout_of_raises hraises]
      have hopen : cmd.sequence ∉ ended c.log := fun hended =>
        hnot (ended_subset_mentioned _ hended)
      exact hbooks.note (.inr ⟨_, rfl⟩) ⟨hopen, fun hne => absurd rfl hne, hbooks.outcome⟩
        hbelow hqueue

/-- What a failure leaves alone, and the one number it can mention. -/
theorem handleCommandErrorOrTimeout_spec (c : Client) (cmd : Command) (status : MsgStatus) :
    (c.handleCommandErrorOrTimeout cmd status).commandQueue = c.commandQueue ∧
      (c.handleCommandErrorOrTimeout cmd status).commandSequence = c.commandSequence ∧
      mentioned (c.handleCommandErrorOrTimeout cmd status).log ⊆
        cmd.sequence :: mentioned c.log := by
  unfold Client.handleCommandErrorOrTimeout
  split_ifs
  · exact ⟨rfl, rfl, List.subset_cons_self _ _⟩
  · exact ⟨rfl, rfl, List.subset_cons_self _ _⟩
  · exact ⟨rfl, rfl, List.Subset.refl _⟩
  · exact ⟨rfl, rfl, List.subset_cons_self _ _⟩

/-- The queue is dropped, one command after the other. -/
theorem Books.failAll (cmds : List Command) (hbooks : Books strict c) (hempty : c.commandQueue = [])
    (hfresh : ∀ cmd ∈ cmds, cmd.sequence < c.commandSequence ∧ cmd.sequence ∉ mentioned c.log)
    (hdistinct : (cmds.map Command.sequence).Nodup) :
    Books strict (cmds.foldl (fun c cmd => c.handleCommandErrorOrTimeout cmd .sendFailed) c) := by
  induction cmds generalizing c with
  | nil => exact hbooks
  | cons cmd rest ih =>
      obtain ⟨hbelow, hnot⟩ := hfresh cmd List.mem_cons_self
      obtain ⟨hhead, hrest⟩ := List.nodup_cons.mp hdistinct
      obtain ⟨hqueue, hnext, hmentioned⟩ := handleCommandErrorOrTimeout_spec c cmd .sendFailed
      have hfailed := hbooks.failUnsent hbelow hnot (by simp [hempty])
      refine ih hfailed (hqueue.trans hempty) ?_ hrest
      intro other hother
      obtain ⟨hbelow', hnot'⟩ := hfresh other (List.mem_cons_of_mem _ hother)
      refine ⟨hnext ▸ hbelow', fun hmem => ?_⟩
      rcases List.mem_cons.mp (hmentioned hmem) with heq | hold
      · exact hhead (heq ▸ List.mem_map_of_mem hother)
      · exact hnot' hold

theorem Books.clearCommandQueue (hbooks : Books strict c) : Books strict c.clearCommandQueue := by
  unfold Client.clearCommandQueue
  refine Books.failAll _ ?_ rfl hbooks.fresh hbooks.distinct
  exact ⟨by simp, List.nodup_nil, hbooks.below, hbooks.requested, hbooks.outcome⟩

theorem Books.dropConnection (hbooks : Books strict c) : Books strict c.dropConnection := by
  unfold Client.dropConnection
  exact hbooks.clearCommandQueue.quiet
    ((((Quiet.refl _).notifyConnectionState false).post _).start _)

/-- The active request fails only if it is not over. -/
theorem Books.beginReconnect (hbooks : Books strict c) {failActiveRequest : Bool}
    (hopen : failActiveRequest → c.currentCmdRequested.type.raisesFailure → ¬c.Over) :
    Books strict (c.beginReconnect failActiveRequest) := by
  unfold Client.beginReconnect
  extract_lets stopped unexpected
  have hquiet : Quiet c unexpected :=
    ((((((Quiet.refl c).cancel .connect).cancel .send).cancel .ack).cancel .response).cancel
      .watchdog).cancel .healthStatus |>.unexpect
  split_ifs with hfail
  · rw [Bool.and_eq_true] at hfail
    exact (hbooks.failRequested_quiet hquiet (hopen hfail.1) _).dropConnection
  · exact (hbooks.quiet hquiet).dropConnection

theorem perm_push (cmd : Command) (queue : List Command) :
    (push cmd queue).Perm (cmd :: queue) := by
  induction queue with
  | nil => exact List.Perm.refl _
  | cons first rest ih =>
      unfold push
      split_ifs
      · exact List.Perm.refl _
      · exact (ih.cons first).trans (List.Perm.swap cmd first rest)

/-- The next command gets a number that nothing has. -/
theorem Books.runEnqueueCommand (hbooks : Books strict c) (type : CommandType) (priority : ℕ)
    (data : Option CommandData) : Books strict (c.runEnqueueCommand type priority data) := by
  have hunused : c.commandSequence ∉ mentioned c.log := by
    intro hmem
    exact absurd (hbooks.below _ hmem) (Nat.lt_irrefl _)
  have hunqueued : ∀ other ∈ c.commandQueue, other.sequence ≠ c.commandSequence := by
    intro other hother
    exact Nat.ne_of_lt (hbooks.fresh other hother).1
  unfold Client.runEnqueueCommand
  extract_lets command counted
  have hcounted : Books strict counted := by
    refine ⟨fun other hother => ?_, hbooks.distinct, fun number hnumber => ?_, hbooks.requested,
      hbooks.outcome⟩
    · exact ⟨Nat.lt_succ_of_lt (hbooks.fresh other hother).1, (hbooks.fresh other hother).2⟩
    · exact Nat.lt_succ_of_lt (hbooks.below number hnumber)
  split_ifs
  · exact hcounted.failUnsent (Nat.lt_succ_self _) hunused hunqueued
  · refine Books.quiet ?_ ((Quiet.refl _).checkCommandQueue)
    have hperm := perm_push command c.commandQueue
    refine ⟨fun other hother => ?_, ?_, hcounted.below, hcounted.requested, hcounted.outcome⟩
    · rcases List.mem_cons.mp (hperm.mem_iff.mp hother) with rfl | hold
      · exact ⟨Nat.lt_succ_self _, hunused⟩
      · exact hcounted.fresh other hold
    · refine (hperm.map Command.sequence).nodup_iff.mpr (List.nodup_cons.mpr ⟨?_, hbooks.distinct⟩)
      intro hmem
      obtain ⟨other, hother, heq⟩ := List.mem_map.mp hmem
      exact hunqueued other hother heq

/-! ## Writing -/

/-- Writing a command notes nothing; for a control reply nothing is expected either. -/
theorem write_spec (c : Client) (cmd : Command) :
    (c.write cmd).ledger = c.ledger ∧ (c.write cmd).currentCmd = c.currentCmd ∧
      (cmd.type.isControl → (c.write cmd).expectedResponseSeqNo = c.expectedResponseSeqNo) ∧
      ∃ more, (c.write cmd).posted = c.posted ++ more := by
  unfold Client.write
  split
  extract_lets expecting
  have hexpecting : expecting.ledger = c.ledger ∧ expecting.currentCmd = c.currentCmd ∧
      (cmd.type.isControl → expecting.expectedResponseSeqNo = c.expectedResponseSeqNo) ∧
      expecting.posted = c.posted := by
    simp only [expecting]
    split_ifs with hcount
    · refine ⟨rfl, rfl, fun hcontrol => ?_, rfl⟩
      simp [hcontrol] at hcount
    · exact ⟨rfl, rfl, fun _ => rfl, rfl⟩
  obtain ⟨hledger, hcmd, hexpected, hposted⟩ := hexpecting
  split_ifs
  · exact ⟨hledger, hcmd, hexpected, _, congrArg (· ++ _) hposted⟩
  · exact ⟨hledger, hcmd, hexpected, _, congrArg (· ++ _) hposted⟩

/-- Taking the next command: a request that is written has had no outcome. -/
theorem Books.popFromCommandQueueAndEnqueueWrite (hbooks : Books strict c) :
    Books strict c.popFromCommandQueueAndEnqueueWrite ∧
      (c.commandQueue ≠ [] →
        c.popFromCommandQueueAndEnqueueWrite.currentCmd.type.isControl = false →
          ¬c.popFromCommandQueueAndEnqueueWrite.Over) := by
  unfold Client.popFromCommandQueueAndEnqueueWrite
  cases hqueue : c.commandQueue with
  | nil => exact ⟨hbooks, fun hne => absurd rfl hne⟩
  | cons cmd rest =>
      have hfresh := hbooks.fresh
      have hdistinct := hbooks.distinct
      rw [hqueue] at hfresh hdistinct
      obtain ⟨hhead, hrest⟩ := List.nodup_cons.mp hdistinct
      obtain ⟨hbelow, hnot⟩ := hfresh cmd List.mem_cons_self
      have hothers := fun other hother => hfresh other (List.mem_cons_of_mem _ hother)
      dsimp only
      split_ifs with hcontrol
      · -- ACK and NAK leave the remembered request alone
        obtain ⟨hledger, hcmd, hexpected, -⟩ :=
          write_spec { c with commandQueue := rest, currentCmd := cmd } cmd
        refine ⟨Books.congr ?_ hledger (.inr (.inl (hexpected hcontrol))), fun _ hrequest => ?_⟩
        · exact ⟨hothers, hrest, hbooks.below, hbooks.requested, hbooks.outcome⟩
        · rw [hcmd, hcontrol] at hrequest
          cases hrequest
      · -- the command becomes the remembered request
        obtain ⟨hledger, -⟩ := write_spec
          ({ c with commandQueue := rest, currentCmd := cmd, currentCmdRequested := cmd }.note
            (.dequeued cmd)) cmd
        refine ⟨Books.congr ?_ hledger (.inl rfl), fun _ _ hover => ?_⟩
        · refine ⟨fun other hother => ⟨(hothers other hother).1, ?_⟩, hrest, ?_, .inl rfl,
            hbooks.outcome⟩
          · show other.sequence ∉ mentioned (.dequeued cmd :: c.log)
            rw [mentioned_dequeued, List.mem_cons, not_or]
            exact ⟨fun heq => hhead (heq ▸ List.mem_map_of_mem hother), (hothers other hother).2⟩
          · show ∀ number ∈ mentioned (.dequeued cmd :: c.log), number < c.commandSequence
            rw [mentioned_dequeued, List.forall_mem_cons]
            exact ⟨hbelow, hbooks.below⟩
        · rw [over_congr hledger] at hover
          exact hnot (ended_subset_mentioned _ hover)

/-! ## The state handlers -/

/-- The events that raise a failure for the remembered request. -/
def fails : State → Event → Bool
  | .writingRequest, .writeTimeout => true
  | .writingRequest, .reconnectRequest => true
  | .waitingForResponse, .ackTimeout => true
  | .waitingForResponse, .responseTimeout => true
  | .waitingForResponse, .reconnectRequest => true
  | _, _ => false

theorem eventHandler_of_connected (hstate : c.currentState = .connected) (event : Event) :
    c.eventHandler event = c.handleConnectedState event := by
  rw [Client.eventHandler, hstate]

theorem eventHandler_of_writing (hstate : c.currentState = .writingRequest) (event : Event) :
    c.eventHandler event = c.handleWritingRequestState event := by
  rw [Client.eventHandler, hstate]

theorem eventHandler_of_waiting (hstate : c.currentState = .waitingForResponse) (event : Event) :
    c.eventHandler event = c.handleWaitingForResponseState event := by
  rw [Client.eventHandler, hstate]

/-- No event spoils the books if none of the failures comes after the outcome. -/
theorem Books.eventHandler (hbooks : Books strict c) (event : Event)
    (hopen : fails c.currentState event → c.currentCmdRequested.type.raisesFailure → ¬c.Over) :
    Books strict (c.eventHandler event) := by
  have hquiet := Quiet.refl c
  unfold Client.eventHandler
  cases hstate : c.currentState with
  | idle => exact hbooks.quiet ((hquiet.post _).start _)
  | connecting => exact hbooks.quiet (hquiet.handleConnectingState event)
  | connected =>
      simp only [handleConnectedState]
      split_ifs
      · exact hbooks.quiet (hquiet.processEvent _)
      · exact hbooks.quiet hquiet.checkCommandQueue
      · exact hbooks.quiet (hquiet.processEvent _)
      · exact hbooks.popFromCommandQueueAndEnqueueWrite.1.quiet ((Quiet.refl _).start _)
      · exact hbooks.beginReconnect (fun hfalse => by cases hfalse)
      · exact hbooks
  | writingRequest =>
      simp only [handleWritingRequestState]
      split_ifs with hcompleted hcontrol htimeout hconnected hreconnect
      · exact hbooks.quiet (hquiet.processEvent _)
      · exact hbooks.quiet (hquiet.start _)
      · exact hbooks.failRequested_quiet (hquiet.processEvent _)
          (hopen (by rw [hstate, htimeout]; rfl)) _
      · exact hbooks.failRequested (hopen (by rw [hstate, htimeout]; rfl)) _
      · exact hbooks.beginReconnect (fun _ => hopen (by rw [hstate, hreconnect]; rfl))
      · exact hbooks
  | waitingForResponse =>
      simp only [handleWaitingForResponseState]
      split_ifs with hack hackTimeout htimeout hconnected hreconnect
      · exact hbooks.quiet (hquiet.start _)
      · exact hbooks.failRequested_quiet hquiet.unexpect
          (hopen (by rw [hstate, hackTimeout]; rfl)) _
      · exact hbooks.failRequested_quiet (hquiet.unexpect.processEvent _)
          (hopen (by rw [hstate, htimeout]; rfl)) _
      · exact hbooks.failRequested_quiet hquiet.unexpect
          (hopen (by rw [hstate, htimeout]; rfl)) _
      · exact hbooks.beginReconnect (fun _ => hopen (by rw [hstate, hreconnect]; rfl))
      · exact hbooks

/-! ## The automaton -/

/-- The events that leave `WAITING_FOR_RESPONSE`. -/
def leaves : Event → Bool
  | .ackAsRspReceived => true
  | .ackTimeout => true
  | .responseTimerCancelledRspReceived => true
  | .responseTimeout => true
  | .reconnectRequest => true
  | .unsolicitedRequestDone => true
  | _ => false

/-- The event with which the client leaves `WAITING_FOR_RESPONSE`, as the queue stands. -/
def firstLeaving : List Handler → Option Event
  | [] => none
  | .event event :: rest => if leaves event then some event else firstLeaving rest
  | _ :: rest => firstLeaving rest

theorem firstLeaving_append (first second : List Handler) :
    firstLeaving (first ++ second) = (firstLeaving first).or (firstLeaving second) := by
  induction first with
  | nil => rfl
  | cons handler rest ih =>
      cases handler with
      | event event =>
          rw [List.cons_append, firstLeaving, firstLeaving, ih]
          split_ifs
          · rfl
          · rfl
      | _ => exact ih

theorem state_of_fails {state : State} {event : Event} (hfails : fails state event) :
    state = .writingRequest ∨ state = .waitingForResponse := by
  cases state with
  | writingRequest => exact .inl rfl
  | waitingForResponse => exact .inr rfl
  | _ => cases event <;> cases hfails

theorem leaves_of_fails {event : Event} (hfails : fails .waitingForResponse event) :
    leaves event := by
  cases event <;> first | rfl | cases hfails

theorem leaves_eq_false {event : Event}
    (hstays : stateTransitionTable .waitingForResponse event = none ∨
      stateTransitionTable .waitingForResponse event = some .waitingForResponse) :
    leaves event = false := by
  cases event <;> first | rfl | simp [stateTransitionTable] at hstays

/-- A request is being written or waited for. -/
def Busy (c : Client) : Prop :=
  c.currentState = .writingRequest ∨ c.currentState = .waitingForResponse

/-- While a request is written or waited for it has no outcome yet, or the next event that
leaves the state is none of the failures. -/
def Engaged (c : Client) : Prop :=
  c.Busy → c.currentCmd.type.isControl = false → c.currentCmdRequested.type.raisesFailure →
    c.Over → c.currentState = .waitingForResponse ∧
      ∃ event, firstLeaving c.posted = some event ∧ fails .waitingForResponse event = false

theorem Engaged.quiet (hengaged : Engaged c) (hquiet : Quiet c d) : Engaged d := by
  obtain ⟨hledger, hstate, hcmd, -, more, hposted⟩ := hquiet
  intro hbusy hrequest hraises hover
  unfold Busy at hbusy
  rw [hstate] at hbusy
  rw [hcmd] at hrequest
  rw [same_requested hledger] at hraises
  obtain ⟨hwaiting, event, hfirst, hnot⟩ :=
    hengaged hbusy hrequest hraises ((over_congr hledger).mp hover)
  refine ⟨hstate.trans hwaiting, event, ?_, hnot⟩
  rw [hposted, firstLeaving_append, hfirst, Option.some_or]

/-- Taking a handler that does not leave the state. -/
theorem Engaged.take (hengaged : Engaged c) {handler : Handler} {rest : List Handler}
    (hposted : c.posted = handler :: rest)
    (hstays : c.currentState = .waitingForResponse →
      firstLeaving (handler :: rest) = firstLeaving rest) :
    Engaged { c with posted := rest } := by
  intro hbusy hrequest hraises hover
  obtain ⟨hwaiting, event, hfirst, hnot⟩ := hengaged hbusy hrequest hraises hover
  refine ⟨hwaiting, event, ?_, hnot⟩
  rw [hposted, hstays hwaiting] at hfirst
  exact hfirst

/-- Outside the two states there is nothing to keep. -/
theorem engaged_enter {next : State} (hnext : next ≠ .writingRequest ∧ next ≠ .waitingForResponse)
    (c : Client) : Engaged (c.enter next) := by
  have hstate : (c.enter next).currentState = next := by
    unfold Client.enter
    split_ifs
    · rfl
    · rfl
  intro hbusy
  rw [Busy, hstate] at hbusy
  exact absurd hbusy (not_or.mpr hnext)

/-- Entering one of the two states with a request that is not over, or for a control reply. -/
theorem engaged_enter_of_not_over {next : State} (hnext : next ≠ .connected)
    (hopen : c.currentCmd.type.isControl = false →
      c.currentCmdRequested.type.raisesFailure → ¬c.Over) :
    Engaged (c.enter next) := by
  unfold Client.enter
  rw [if_neg hnext]
  intro _ hrequest hraises hover
  exact absurd hover (hopen hrequest hraises)

/-! ## What may happen -/

/-- The message completes the remembered request. -/
def completes (c : Client) (data : List UInt8) : Bool :=
  match receivedMessage c.config data with
  | .inr _ => false
  | .inl (header, body) =>
      if isResponseMatchedDataTypeCode c.currentCmdRequested header.dataTypeCode body then
        decide (c.expectedResponseSeqNo = some header.seqNo) &&
          !(decide (header.dataTypeCode = MessageCode.ack.toUInt8) &&
            doesCmdRequireNotification c.currentCmdRequested)
      else
        isNotificationReceived header.dataTypeCode &&
          isResponseNotificationComplete c.currentCmdRequested header.dataTypeCode

/-- What may happen for a remembered request whose failures raise an event: an event that
raises one comes after the outcome neither during a control reply nor because nothing was
written, and the message that completes the request is not read while it is being written, nor
behind an event that will raise a failure for it. -/
def Regular (c : Client) (input : Input) : Prop :=
  c.currentCmdRequested.type.raisesFailure →
    match input, c.posted with
    | .run, .event event :: _ =>
        (fails c.currentState event → c.currentCmd.type.isControl → ¬c.Over) ∧
          (c.currentState = .connected → event = .writeCommand → c.Over →
            c.isConnected ∧ c.commandQueue ≠ [])
    | .run, .received data :: rest =>
        c.completes data → c.Busy → c.currentCmd.type.isControl = false →
          c.currentState = .waitingForResponse ∧
            ∀ event ∈ firstLeaving rest, fails .waitingForResponse event = false
    | _, _ => True

instance (c : Client) (input : Input) : Decidable (Regular c input) := by
  unfold Regular Over Busy
  split <;> infer_instance

/-- A request that is over is not completed once more. -/
def NotAgain (c : Client) (input : Input) : Prop :=
  match input, c.posted with
  | .run, .received data :: _ => c.completes data → ¬c.Over
  | _, _ => True

instance (c : Client) (input : Input) : Decidable (NotAgain c input) := by
  unfold NotAgain Over
  split <;> infer_instance

/-! ## One event -/

/-- A regular failure comes before the outcome. -/
theorem Engaged.not_over_of_fails (hengaged : Engaged c) {event : Event} {rest : List Handler}
    (hposted : c.posted = .event event :: rest) (hregular : Regular c .run)
    (hfails : fails c.currentState event) (hraises : c.currentCmdRequested.type.raisesFailure) :
    ¬c.Over := by
  intro hover
  have hallowed := hregular hraises
  rw [hposted] at hallowed
  cases hcontrol : c.currentCmd.type.isControl with
  | true => exact hallowed.1 hfails hcontrol hover
  | false =>
      obtain ⟨hwaiting, other, hfirst, hnot⟩ :=
        hengaged (state_of_fails hfails) hcontrol hraises hover
      -- the event at the head is the first that leaves the state
      rw [hwaiting] at hfails
      rw [hposted, firstLeaving, if_pos (leaves_of_fails hfails)] at hfirst
      obtain rfl := Option.some.inj hfirst
      rw [hfails] at hnot
      cases hnot

/-- `WRITE_COMMAND` in `CONNECTED`: what is written is not over. -/
theorem Books.not_over_of_writeCommand (hbooks : Books strict c)
    (hready : c.currentCmdRequested.type.raisesFailure → c.Over →
      c.isConnected ∧ c.commandQueue ≠ [])
    (hrequest : (c.handleConnectedState .writeCommand).currentCmd.type.isControl = false)
    (hraises : (c.handleConnectedState .writeCommand).currentCmdRequested.type.raisesFailure) :
    ¬(c.handleConnectedState .writeCommand).Over := by
  unfold handleConnectedState at hrequest hraises ⊢
  rw [if_neg (by decide), if_pos rfl] at hrequest hraises ⊢
  split_ifs at hrequest hraises ⊢ with hconnected
  · -- without a connection nothing is taken from the queue
    have hledger : (c.processEvent .reconnectRequest).ledger = c.ledger := rfl
    rw [over_congr hledger]
    intro hover
    have hready := (hready hraises hover).1
    rw [hready] at hconnected
    cases hconnected
  · obtain ⟨-, hopen⟩ := hbooks.popFromCommandQueueAndEnqueueWrite
    by_cases hempty : c.commandQueue = []
    · have hsame : c.popFromCommandQueueAndEnqueueWrite = c := by
        unfold Client.popFromCommandQueueAndEnqueueWrite
        rw [hempty]
      rw [hsame] at hraises ⊢
      exact fun hover => (hready hraises hover).2 hempty
    · exact hopen hempty hrequest

/-- An event keeps both invariants if no failure comes after the outcome, what is written is
not over, and it finds the client engaged unless it leaves the state. -/
theorem Books.runEvent (hbooks : Books strict c) (event : Event)
    (hopen : fails c.currentState event → c.currentCmdRequested.type.raisesFailure → ¬c.Over)
    (hready : c.currentState = .connected → event = .writeCommand →
      c.currentCmdRequested.type.raisesFailure → c.Over → c.isConnected ∧ c.commandQueue ≠ [])
    (hwriting : c.currentState = .writingRequest → c.currentCmd.type.isControl = false →
      c.currentCmdRequested.type.raisesFailure → ¬c.Over)
    (hengaged : (c.currentState = .waitingForResponse → leaves event = false) → Engaged c) :
    Books strict (c.runEvent event) ∧ Engaged (c.runEvent event) := by
  unfold Client.runEvent
  cases htable : stateTransitionTable c.currentState event with
  | none =>
      refine ⟨hbooks, hengaged (fun hwaiting => leaves_eq_false (.inl ?_))⟩
      rw [← hwaiting]
      exact htable
  | some next =>
      refine ⟨(hbooks.eventHandler event hopen).enter next, ?_⟩
      cases next with
      | writingRequest =>
          have hboth : c.currentState = .connected ∧ event = .writeCommand := by
            cases hstate : c.currentState <;> rw [hstate] at htable <;> cases event <;>
              first | exact ⟨rfl, rfl⟩ | cases htable
          obtain ⟨hstate, rfl⟩ := hboth
          refine engaged_enter_of_not_over (by decide) ?_
          rw [eventHandler_of_connected hstate]
          exact hbooks.not_over_of_writeCommand (hready hstate rfl)
      | waitingForResponse =>
          have hboth : c.currentState = .writingRequest ∧ event = .writeCompleted ∨
              c.currentState = .waitingForResponse ∧ event = .ackTimerCancelledAckReceived := by
            cases hstate : c.currentState <;> rw [hstate] at htable <;> cases event <;>
              first | exact .inl ⟨rfl, rfl⟩ | exact .inr ⟨rfl, rfl⟩ | cases htable
          rcases hboth with ⟨hstate, rfl⟩ | ⟨hstate, rfl⟩
          · refine engaged_enter_of_not_over (by decide) ?_
            rw [eventHandler_of_writing hstate, handleWritingRequestState, if_pos rfl]
            split_ifs
            · exact hwriting hstate
            · exact hwriting hstate
          · rw [eventHandler_of_waiting hstate, handleWaitingForResponseState, if_pos rfl]
            exact (hengaged (fun _ => rfl)).quiet
              ⟨rfl, hstate.symm, rfl, .inl rfl, [], (List.append_nil _).symm⟩
      | _ => exact engaged_enter (by decide) _

/-- Taking a regular event keeps both invariants. -/
theorem keeps_event (hbooks : Books strict c) (hengaged : Engaged c) {event : Event}
    {rest : List Handler} (hposted : c.posted = .event event :: rest)
    (hregular : Regular c .run) :
    Books strict ({ c with posted := rest }.runEvent event) ∧
      Engaged ({ c with posted := rest }.runEvent event) := by
  have htaken : Books strict { c with posted := rest } := hbooks.congr rfl (.inr (.inl rfl))
  refine htaken.runEvent event (hengaged.not_over_of_fails hposted hregular) ?_ ?_ ?_
  · intro hstate hevent hraises hover
    have hallowed := hregular hraises
    rw [hposted] at hallowed
    exact hallowed.2 hstate hevent hover
  · -- while it is being written a request has no outcome
    intro hstate hrequest hraises hover
    obtain ⟨hwaiting, -⟩ := hengaged (.inl hstate) hrequest hraises hover
    have hdiffer := hstate.symm.trans hwaiting
    cases hdiffer
  · intro hleaves
    refine hengaged.take hposted (fun hwaiting => ?_)
    rw [firstLeaving, hleaves hwaiting]
    rfl

/-! ## Received data -/

theorem Quiet.note_both (hquiet : Quiet c d) (entry : Outcome) :
    Quiet (c.note entry) (d.note entry) := by
  obtain ⟨hledger, hrest⟩ := hquiet
  have hrecord : record d.log = record c.log := congrArg Prod.fst hledger
  refine ⟨?_, hrest⟩
  have hsame : record (entry :: d.log) = record (entry :: c.log) := by
    simp only [record, List.filter_cons] at hrecord ⊢
    rw [hrecord]
  exact congrArg₂ Prod.mk hsame (congrArg Prod.snd hledger)

theorem Quiet.handleInvalidMessage (hquiet : Quiet c d) (data : List UInt8) (reasonCode : UInt8) :
    Quiet c (d.handleInvalidMessage data reasonCode) := by
  unfold Client.handleInvalidMessage
  split_ifs
  · exact hquiet.sendNak _ _ _
  · exact hquiet

theorem Quiet.handleParsedResponseMessage (hquiet : Quiet c d) (header : MessageHeader)
    (body : List UInt8) : Quiet c (d.handleParsedResponseMessage header body) := by
  unfold Client.handleParsedResponseMessage
  split_ifs
  · exact hquiet
  · exact hquiet
  · exact hquiet

/-- A step that completes the remembered request, and lets the client leave
`WAITING_FOR_RESPONSE` without a failure. -/
def CompletesInto (c d : Client) : Prop :=
  Quiet (c.note (.completed c.currentCmdRequested)) d ∧
    ∃ more event, d.posted = c.posted ++ more ∧ firstLeaving more = some event ∧
      fails .waitingForResponse event = false

theorem CompletesInto.sendAck (hcompletes : CompletesInto c d) (seqNo : UInt16) (code : UInt8) :
    CompletesInto c (d.sendAck seqNo code) := by
  obtain ⟨hquiet, more, event, hposted, hfirst, hnot⟩ := hcompletes
  let reply := Handler.enqueueCommand .ack 0 (some (.ackData seqNo code (.replicate 3 0x00)))
  refine ⟨hquiet.sendAck seqNo code, more ++ [reply], event, ?_, ?_, hnot⟩
  · show d.posted ++ [reply] = _
    rw [hposted, List.append_assoc]
  · rw [firstLeaving_append, hfirst, Option.some_or]

/-- The part of `completes` for a response. -/
def completesAsResponse (c : Client) (header : MessageHeader) : Bool :=
  decide (c.expectedResponseSeqNo = some header.seqNo) &&
    !(decide (header.dataTypeCode = MessageCode.ack.toUInt8) &&
      doesCmdRequireNotification c.currentCmdRequested)

theorem handleResponse_spec (hquiet : Quiet c d)
    (hexpected : d.expectedResponseSeqNo = c.expectedResponseSeqNo)
    (hposted : d.posted = c.posted) (header : MessageHeader) (body : List UInt8) :
    if c.completesAsResponse header then CompletesInto c (d.handleResponse header body)
    else Quiet c (d.handleResponse header body) := by
  have hrequested := same_requested hquiet.1
  unfold handleResponse completesAsResponse
  rw [hexpected]
  by_cases hmatches : c.expectedResponseSeqNo = some header.seqNo
  · rw [if_neg (not_not.mpr hmatches), decide_eq_true hmatches, Bool.true_and]
    extract_lets parsed unexpecting
    have hunexpecting : Quiet c unexpecting :=
      ((hquiet.cancel .ack).handleParsedResponseMessage header body).unexpect
    have hposted' : unexpecting.posted = c.posted := by
      rw [← hposted]
      simp only [unexpecting, parsed, handleParsedResponseMessage]
      split_ifs
      · rfl
      · rfl
      · rfl
    have hrequested' := same_requested hunexpecting.1
    rw [hrequested']
    by_cases hack : header.dataTypeCode = MessageCode.ack.toUInt8 ∧
        doesCmdRequireNotification c.currentCmdRequested
    · rw [if_pos hack, decide_eq_true hack.1, hack.2]
      exact (hunexpecting.note rfl).processEvent _
    · rw [if_neg hack, if_pos (by simpa [imp_iff_not_or] using hack)]
      refine ⟨(hunexpecting.note_both _).processEvent _, [.event .ackAsRspReceived], _, ?_, rfl, rfl⟩
      exact congrArg (· ++ [Handler.event .ackAsRspReceived]) hposted'
  · rw [if_pos hmatches, decide_eq_false hmatches, Bool.false_and]
    exact hquiet

theorem handleNotification_spec (hquiet : Quiet c d) (hposted : d.posted = c.posted)
    (header : MessageHeader) :
    if isResponseNotificationComplete c.currentCmdRequested header.dataTypeCode then
      CompletesInto c (d.handleNotification header)
    else Quiet c (d.handleNotification header) := by
  unfold handleNotification
  rw [same_requested hquiet.1]
  split_ifs
  · refine CompletesInto.sendAck ⟨((hquiet.note_both _).cancel _).processEvent _,
      [.event .responseTimerCancelledRspReceived], _, ?_, rfl, rfl⟩ _ _
    exact congrArg (· ++ [Handler.event .responseTimerCancelledRspReceived]) hposted
  · exact hquiet.sendAck _ _

/-- What `handleReceivedData` does to the outcomes. -/
theorem handleReceivedData_spec (c : Client) (data : List UInt8) :
    if c.completes data then CompletesInto c (c.handleReceivedData data)
    else Quiet c (c.handleReceivedData data) := by
  unfold handleReceivedData completes
  cases receivedMessage c.config data with
  | inr reasonCode => exact (Quiet.refl c).handleInvalidMessage data reasonCode
  | inl message =>
      obtain ⟨header, body⟩ := message
      have hquiet : Quiet c (c.note (.handled header body)) := (Quiet.refl c).note rfl
      have hrequested := same_requested hquiet.1
      dsimp only
      rw [hrequested]
      by_cases hmatched :
          isResponseMatchedDataTypeCode c.currentCmdRequested header.dataTypeCode body
      · simp only [hmatched, if_true]
        exact handleResponse_spec hquiet rfl rfl header body
      · simp only [hmatched]
        by_cases hnotification : isNotificationReceived header.dataTypeCode
        · simp only [hnotification, if_true, Bool.true_and]
          exact handleNotification_spec hquiet rfl header
        · simp only [hnotification, Bool.false_and]
          exact hquiet.handleInvalidMessage data _

/-- Only a request that was dequeued is completed. -/
theorem Books.lastDequeued_of_completes (hbooks : Books strict c) {data : List UInt8}
    (hcompletes : c.completes data) : lastDequeued c.log = some c.currentCmdRequested := by
  rcases hbooks.requested with hlast | ⟨-, htype, hnothing⟩
  · exact hlast
  · unfold completes at hcompletes
    simp only [hnothing, isResponseNotificationComplete, htype, completingNotification] at hcompletes
    split at hcompletes
    · cases hcompletes
    · split_ifs at hcompletes
      · cases hcompletes
      · simp at hcompletes

/-- Taking regular data keeps both invariants. -/
theorem keeps_received (hbooks : Books strict c) (hengaged : Engaged c) {data : List UInt8}
    {rest : List Handler} (hposted : c.posted = .received data :: rest)
    (hregular : Regular c .run) (hagain : strict → c.completes data → ¬c.Over) :
    Books strict ({ c with posted := rest }.handleReceivedData data) ∧
      Engaged ({ c with posted := rest }.handleReceivedData data) := by
  have htaken : Books strict { c with posted := rest } := hbooks.congr rfl (.inr (.inl rfl))
  have hstays : Engaged { c with posted := rest } := hengaged.take hposted (fun _ => rfl)
  have hspec := handleReceivedData_spec { c with posted := rest } data
  have hsame : { c with posted := rest }.completes data = c.completes data := rfl
  rw [hsame] at hspec
  by_cases hcompletes : c.completes data
  · rw [if_pos hcompletes] at hspec
    obtain ⟨hquiet, more, event, hmore, hfirst, hnot⟩ := hspec
    have hlast := hbooks.lastDequeued_of_completes hcompletes
    obtain ⟨hbelow, hqueue⟩ := hbooks.requested_not_queued hlast
    refine ⟨(htaken.note (.inl rfl) ⟨fun hstrict => hagain hstrict hcompletes, hbooks.outcome⟩
      hbelow hqueue).quiet hquiet, ?_⟩
    obtain ⟨hledger, hstate, hcmd, -⟩ := hquiet
    intro hbusy hrequest hraises _
    unfold Busy at hbusy
    rw [hstate] at hbusy
    rw [hcmd] at hrequest
    rw [same_requested hledger] at hraises
    have hallowed := hregular hraises
    rw [hposted] at hallowed
    obtain ⟨hwaiting, hqueued⟩ := hallowed hcompletes hbusy hrequest
    refine ⟨hstate.trans hwaiting, ?_⟩
    rw [hmore, firstLeaving_append]
    cases hbefore : firstLeaving rest with
    | none => exact ⟨event, hfirst, hnot⟩
    | some other => exact ⟨other, rfl, hqueued other hbefore⟩
  · rw [if_neg hcompletes] at hspec
    exact ⟨htaken.quiet hspec, hstays.quiet hspec⟩

/-- A command that is enqueued, or fails at once, is none that is being waited for. -/
theorem engaged_runEnqueueCommand (hbooks : Books strict c) (hengaged : Engaged c)
    (type : CommandType) (priority : ℕ) (data : Option CommandData) :
    Engaged (c.runEnqueueCommand type priority data) := by
  unfold Client.runEnqueueCommand
  extract_lets command counted
  have hcounted : Engaged counted := hengaged
  split_ifs
  · cases hraises : command.type.raisesFailure with
    | false =>
        exact hcounted.quiet ((Quiet.refl counted).handleCommandErrorOrTimeout hraises _)
    | true =>
        rw [handleCommandErrorOrTimeout_of_raises hraises]
        intro hbusy hrequest hwatched hover
        have hlast := hbooks.lastDequeued_of_raises hwatched
        have hother := Nat.ne_of_lt (hbooks.requested_not_queued hlast).1
        refine hengaged hbusy hrequest hwatched ?_
        rcases List.mem_cons.mp hover with heq | hold
        · exact absurd heq hother
        · exact hold
  · have hpushed : Engaged { counted with commandQueue := push command counted.commandQueue } :=
      hengaged
    exact hpushed.quiet ((Quiet.refl _).checkCommandQueue)

/-! ## Runs -/

/-- The handlers that take no part in the outcomes. -/
def isPlain : Handler → Bool
  | .event _ => false
  | .received _ => false
  | .enqueueCommand _ _ _ => false
  | _ => true

theorem quiet_runHandler {handler : Handler} (hplain : isPlain handler) :
    Quiet c (c.runHandler handler) := by
  have hquiet := Quiet.refl c
  cases handler with
  | event _ | received _ | enqueueCommand _ _ _ => cases hplain
  | checkCommandQueue => exact hquiet.checkCommandQueue
  | commandFailure type status => exact hquiet.note rfl
  | handleConnect success => exact (hquiet.cancel _).processEvent _
  | handleSend success => exact (hquiet.cancel _).processEvent _
  | receiveFailed => exact hquiet.processEvent _
  | clientConnect => exact hquiet.clientConnect
  | clientSend message => exact hquiet.clientSend message
  | clientClose => exact hquiet
  | expired timer => exact hquiet.runExpired timer
/-- Outside, nothing but the queue of handlers grows. -/
theorem quiet_step {input : Input} (hrun : input ≠ .run) : Quiet c (c.step input) := by
  have hquiet := Quiet.refl c
  cases input with
  | run => exact absurd rfl hrun
  | expire timer =>
      simp only [step]
      split_ifs
      · exact (hquiet.cancel _).post _
      · exact hquiet
  | connectDone success =>
      simp only [step]
      split_ifs
      · exact Quiet.post hquiet _
      · exact hquiet
  | writeDone success =>
      simp only [step]
      split_ifs
      · exact hquiet
      · exact Quiet.post hquiet _
      · exact hquiet.post _
  | readDone data =>
      simp only [step]
      split_ifs
      · exact hquiet.post _
      · exact hquiet
  | readFailed =>
      simp only [step]
      split_ifs
      · exact Quiet.post hquiet _
      · exact hquiet
  | enqueue type priority data => exact hquiet.enqueueCommand _ _ _
  | reject type => exact hquiet.post _
  | clock now => exact hquiet

/-- A regular step keeps both invariants. -/
theorem keeps_step (hbooks : Books strict c) (hengaged : Engaged c) {input : Input}
    (hregular : Regular c input) (hagain : strict → NotAgain c input) :
    Books strict (c.step input) ∧ Engaged (c.step input) := by
  by_cases hrun : input = .run
  · subst hrun
    cases hposted : c.posted with
    | nil =>
        have hsame : c.step .run = c := by simp only [step, hposted]
        rw [hsame]
        exact ⟨hbooks, hengaged⟩
    | cons handler rest =>
        have hstep : c.step .run = { c with posted := rest }.runHandler handler := by
          simp only [step, hposted]
        rw [hstep]
        have htaken : Books strict { c with posted := rest } :=
          hbooks.congr rfl (.inr (.inl rfl))
        cases handler with
        | event event => exact keeps_event hbooks hengaged hposted hregular
        | received data =>
            refine keeps_received hbooks hengaged hposted hregular (fun hstrict => ?_)
            have hallowed := hagain hstrict
            unfold NotAgain at hallowed
            rwa [hposted] at hallowed
        | enqueueCommand type priority data =>
            have hstays := hengaged.take hposted (fun _ => rfl)
            exact ⟨htaken.runEnqueueCommand type priority data,
              engaged_runEnqueueCommand htaken hstays type priority data⟩
        | _ =>
            have hstays := hengaged.take hposted (fun _ => rfl)
            exact ⟨htaken.quiet (quiet_runHandler rfl), hstays.quiet (quiet_runHandler rfl)⟩
  · exact ⟨hbooks.quiet (quiet_step hrun), hengaged.quiet (quiet_step hrun)⟩

theorem books_init (config : ClientConfig) (now : LocalTime) : Books strict (init config now) :=
  ⟨by simp [init], List.nodup_nil, by simp [init, mentioned], .inr ⟨rfl, rfl, rfl⟩, trivial⟩

theorem engaged_init (config : ClientConfig) (now : LocalTime) : Engaged (init config now) := by
  rintro (hstate | hstate)
  · cases hstate
  · cases hstate

/-- In a regular run no failure is raised for a request that is over and no time-out for one
that is not outstanding; if besides no request that is over is completed once more, each has
one outcome at most. -/
theorem oneOutcome_of_regular (config : ClientConfig) (now : LocalTime) (inputs : List Input)
    (hregular : Meets step Regular (init config now) inputs) :
    OneOutcome (run step (init config now) inputs).log ∧
      (Meets step NotAgain (init config now) inputs →
        (ended (run step (init config now) inputs).log).Nodup) := by
  constructor
  · have hstep (c : Client) (input : Input) (hinv : Books False c ∧ Engaged c)
        (hallowed : Regular c input) : Books False (c.step input) ∧ Engaged (c.step input) :=
      keeps_step hinv.1 hinv.2 hallowed False.elim
    exact (run_invariant hstep ⟨books_init config now, engaged_init config now⟩
      hregular).1.outcome.oneOutcome
  · intro hagain
    have hstep (c : Client) (input : Input) (hinv : Books True c ∧ Engaged c)
        (hallowed : Regular c input ∧ NotAgain c input) :
        Books True (c.step input) ∧ Engaged (c.step input) :=
      keeps_step hinv.1 hinv.2 hallowed.1 (fun _ => hallowed.2)
    exact (run_invariant hstep ⟨books_init config now, engaged_init config now⟩
      (hregular.and hagain)).1.outcome.nodup_ended

/-! ## A request that is failed after its response -/

/-- A message of the EEP. -/
def eepFrame (now : LocalTime) (messageCode : MessageCode) (seqNo : UInt16) (body : List UInt8) :
    List UInt8 :=
  let msg := appendMessageHeader ⟨33, 97, 0⟩ now messageCode seqNo (UInt16.ofNat body.length) ++ body
  msg ++ Bytes.leBytes 4 (calculateChecksumNoPadding msg).toNat

/-- The client at eight o'clock. -/
def atEight : Client := init ⟨97, 33, 10⟩ ⟨3, 5, 2024, 8, 0, 0⟩

/-- The client connects and sends its `START_REQ_CMD`. -/
def starting : List Input :=
  List.replicate 2 .run ++ [.connectDone true] ++ List.replicate 14 .run ++ [.writeDone true] ++
    List.replicate 2 .run

/-- The response is read. -/
def answeredStart : List Input :=
  starting ++ [.readDone (eepFrame atEight.now .startResponse 0 [0, 0, 0, 0]), .run, .run]

/-- A notification and the response are read, and the notification is acknowledged; then the
send timer expires. -/
def acknowledgedStart : List Input :=
  starting ++ [.readDone (eepFrame atEight.now .diStatusNotification 1 [1, 0, 0, 0]),
    .readDone (eepFrame atEight.now .startResponse 0 [0, 0, 0, 0])] ++ List.replicate 7 .run ++
    [.expire .send, .run, .run]

/-- The request has its response and nothing else. -/
theorem oneOutcome_answeredStart :
    OneOutcome (run step atEight answeredStart).log ∧
      (ended (run step atEight answeredStart).log).Nodup := by
  have hregular : Meets step Regular atEight answeredStart := by decide +kernel
  have hagain : Meets step NotAgain atEight answeredStart := by decide +kernel
  have hruns := oneOutcome_of_regular ⟨97, 33, 10⟩ ⟨3, 5, 2024, 8, 0, 0⟩ answeredStart hregular
  exact ⟨hruns.1, hruns.2 hagain⟩

/-- The request fails behind its response. -/
theorem not_oneOutcome_acknowledgedStart :
    ¬OneOutcome (run step atEight acknowledgedStart).log ∧
      ¬(ended (run step atEight acknowledgedStart).log).Nodup ∧
      (run step atEight acknowledgedStart).log.head? =
        some (.failure { type := .startReqCmd } .sendFailed) := by
  decide +kernel

end Client

end LinuxPBS.Eep

import LinuxPBS.Upt.Moves

/-!
# The frame on the wire is the current command's

A cancel request that finds a frame waiting for the write gap takes it from the queue,
but one that finds a frame being written leaves it where it is, and the client goes back
to `IDLE` and takes the next command.  The frame of that command is queued behind the
old one, the completion of the old write is taken for its own, and from then on every
command is answered for one frame late (`not_wireSound`).

`wireSound_of_settled` is about the runs in which a command is only taken when no write
is in progress and no `WRITE_COMPLETED` is queued.  `Tidy` is the invariant: while a
write is in progress its frame is the only one and that of the current command, and
whatever says that a write has been completed says it of this frame.
-/

namespace LinuxPBS.Upt

open Machine

namespace Client

/-- The frame in `writeQueue_` is that of `currentCmd_` and alone, so have been all frames that
were handed to the port, and the client waits for the terminal only behind that frame. -/
structure WireSound (c : Client) : Prop where
  queue : c.writeQueue = [] ∨
    ∃ frame, c.writeQueue = [frame] ∧ lastDequeued c.log = some (c.currentCmd, frame)
  handed : HandedCurrent c.log
  waiting : c.currentState = .waitingForAck ∨ c.currentState = .waitingForResponse →
    (∃ frame, lastDequeued c.log = some (c.currentCmd, frame)) ∧ CurrentWritten c.log

instance decidableCurrentWritten : ∀ log, Decidable (CurrentWritten log)
  | [] => inferInstanceAs (Decidable False)
  | entry :: older =>
      haveI := decidableCurrentWritten older
      match entry with
      | .written frame => inferInstanceAs (Decidable
          ((lastDequeued older).map Prod.snd = some frame ∨ CurrentWritten older))
      | .dequeued _ _ => inferInstanceAs (Decidable False)
      | .handed _ | .failure _ _ | .paymentAuto _ =>
          inferInstanceAs (Decidable (CurrentWritten older))

/-- A command is taken from the queue only when no write is in progress and no completion of
one is still to be handled. -/
def Settled (c : Client) (input : Input) : Prop :=
  match input, c.posted with
  | .run, .event .commandEnqueued :: rest => c.currentState = .idle → c.commandQueue ≠ [] →
      c.writeInProgress = false ∧ .event .writeCompleted ∉ rest
  | _, _ => True

instance (c : Client) (input : Input) : Decidable (Settled c input) := by
  unfold Settled
  split
  · infer_instance
  · infer_instance

/-! ## The invariant -/

/-- While a write is in progress its frame is the only one and that of the current command,
and a completion of a write is that of this frame. -/
structure Tidy (flight : Flight) (posted : List Handler) (state : State) : Prop where
  queue : flight.writeInProgress = false → flight.writeQueue = []
  front : flight.writeInProgress = true →
    ∃ frame, flight.writeQueue = [frame] ∧
      lastDequeued flight.log = some (flight.currentCmd, frame)
  handed : HandedCurrent flight.log
  completed : .event .writeCompleted ∈ posted → CurrentWritten flight.log
  ended : .writeEnd .none ∈ posted → CurrentWritten flight.log
  waiting : state = .waitingForAck ∨ state = .waitingForResponse → CurrentWritten flight.log

variable {c d : Client} {flight after : Flight} {posted : List Handler} {state next : State}

theorem Tidy.marks (htidy : Tidy flight posted state) (hmarks : d.MarksFrom posted) :
    Tidy flight d.posted state :=
  ⟨htidy.queue, htidy.front, htidy.handed, fun hmem => htidy.completed (hmarks _ hmem rfl),
    fun hmem => htidy.ended (hmarks _ hmem rfl), htidy.waiting⟩

theorem Tidy.inState (htidy : Tidy flight posted state)
    (hwaiting : next = .waitingForAck ∨ next = .waitingForResponse → CurrentWritten flight.log) :
    Tidy flight posted next :=
  ⟨htidy.queue, htidy.front, htidy.handed, htidy.completed, htidy.ended, hwaiting⟩

/-- The current frame is written again, or waits for the write gap again. -/
theorem Tidy.started (htidy : Tidy flight posted state) (hstarted : flight.waited.Started after) :
    Tidy after posted state := by
  have hfront : ∀ {front : TxFrame} {rest : List TxFrame}, flight.writeQueue = front :: rest →
      flight.writeQueue = [front] ∧
        lastDequeued flight.log = some (flight.currentCmd, front) := by
    intro front rest hqueue
    cases hprogress : flight.writeInProgress with
    | false =>
        rw [htidy.queue hprogress] at hqueue
        cases hqueue
    | true =>
        obtain ⟨frame, hone, hlast⟩ := htidy.front hprogress
        obtain ⟨rfl, -⟩ := List.cons.inj (hone.symm.trans hqueue)
        exact ⟨hone, hlast⟩
  cases hstarted with
  | rested hqueue =>
      exact ⟨fun _ => hqueue, fun hprogress => Bool.noConfusion hprogress, htidy.handed,
        htidy.completed, htidy.ended, htidy.waiting⟩
  | delayed hqueue =>
      exact ⟨fun hprogress => Bool.noConfusion hprogress, fun _ => ⟨_, hfront hqueue⟩,
        htidy.handed, htidy.completed, htidy.ended, htidy.waiting⟩
  | handed hqueue =>
      exact ⟨fun hprogress => Bool.noConfusion hprogress, fun _ => ⟨_, hfront hqueue⟩,
        ⟨congrArg (Option.map Prod.snd) (hfront hqueue).2, htidy.handed⟩, htidy.completed,
        htidy.ended, htidy.waiting⟩

/-- A command is taken from the queue while no frame is there. -/
theorem Tidy.dequeued (htidy : Tidy flight posted state) (hfree : flight.writeInProgress = false)
    (hcompleted : .event .writeCompleted ∉ posted) (hended : .writeEnd .none ∉ posted)
    (cmd : UptCmd) {frame : TxFrame}
    (henqueued : (flight.dequeued cmd frame).Enqueued frame after) :
    Tidy after posted .sendingRequestAsync := by
  have hempty : flight.writeQueue = [] := htidy.queue hfree
  have hqueued : flight.writeQueue ++ [frame] = [frame] := by rw [hempty, List.nil_append]
  have hwaiting : ¬ (State.sendingRequestAsync = .waitingForAck ∨
      State.sendingRequestAsync = .waitingForResponse) := by decide
  cases henqueued with
  | empty =>
      exact ⟨fun _ => hempty, fun hbusy => absurd (hfree.symm.trans hbusy) Bool.false_ne_true,
        htidy.handed, fun hmem => absurd hmem hcompleted, fun hmem => absurd hmem hended,
        fun hwait => absurd hwait hwaiting⟩
  | behind hbusy => exact absurd (hfree.symm.trans hbusy) Bool.false_ne_true
  | started hidle hstarted =>
      cases hstarted with
      | rested hqueue => exact absurd hqueue (List.append_ne_nil_of_right_ne_nil _
          (List.cons_ne_nil _ _))
      | delayed =>
          exact ⟨fun hprogress => Bool.noConfusion hprogress, fun _ => ⟨frame, hqueued, rfl⟩,
            htidy.handed, fun hmem => absurd hmem hcompleted, fun hmem => absurd hmem hended,
            fun hwait => absurd hwait hwaiting⟩
      | handed hqueue =>
          obtain ⟨rfl, -⟩ := List.cons.inj (hqueued.symm.trans hqueue)
          exact ⟨fun hprogress => Bool.noConfusion hprogress, fun _ => ⟨frame, hqueued, rfl⟩,
            ⟨rfl, htidy.handed⟩, fun hmem => absurd hmem hcompleted,
            fun hmem => absurd hmem hended, fun hwait => absurd hwait hwaiting⟩

/-- The write that is in progress is over; only a success is one of the current frame. -/
theorem Tidy.popped (htidy : Tidy flight posted state) (hbusy : flight.writeInProgress = true)
    {more : List Handler} (hcompleted : .event .writeCompleted ∈ more → CurrentWritten flight.log)
    (hended : .writeEnd .none ∉ more) : Tidy flight.popped more state := by
  obtain ⟨frame, hone, -⟩ := htidy.front hbusy
  exact ⟨fun _ => congrArg List.tail hone, fun hprogress => Bool.noConfusion hprogress,
    htidy.handed, hcompleted, fun hmem => absurd hmem hended, htidy.waiting⟩

theorem verdict_eq_writeCompleted {error : WriteError}
    (hverdict : c.verdict error = .writeCompleted) : error = .none := by
  unfold Client.verdict at hverdict
  split_ifs at hverdict with htimedOut hnone
  exact hnone

theorem Orderly.no_writeEnd (horderly : Orderly c) (hfree : c.writeInProgress = false)
    (error : WriteError) : .writeEnd error ∉ c.posted := by
  intro hmem
  have hin : .writeEnd error ∈ writeHandlers c.posted := List.mem_filter.mpr ⟨hmem, rfl⟩
  rcases horderly.phase with hphase | ⟨-, -, -, handler, hdelay, hqueued⟩
  · have hnil : writeHandlers c.posted = [] := (hphase.resting hfree).2.2.2.2
    rw [hnil] at hin
    cases hin
  · rw [hqueued, List.mem_singleton] at hin
    rw [← hin] at hdelay
    cases hdelay

theorem Tidy.move (htidy : Tidy c.flight c.posted c.currentState) (horderly : Orderly c)
    {input : Input} (hsettled : Settled c input) (hmove : Move c input d) :
    Tidy d.flight d.posted d.currentState := by
  cases hmove with
  | quiet hflight hmarks hstate =>
      rw [hflight]
      refine (htidy.marks hmarks).inState fun hwait => ?_
      rcases hstate with hsame | hidle | hcancel
      · exact htidy.waiting (hsame ▸ hwait)
      · rw [hidle] at hwait
        exact absurd hwait (by decide)
      · rw [hcancel] at hwait
        exact absurd hwait (by decide)
  | completed hflight hmarks hmark =>
      rw [hflight]
      exact (htidy.marks hmarks).inState fun _ => htidy.completed hmark
  | acknowledged hflight hmarks hfrom =>
      rw [hflight]
      exact (htidy.marks hmarks).inState fun _ => htidy.waiting (.inl hfrom)
  | restarted hflight hposted hmarks _ _ hto =>
      have hwaiting : ¬ (State.sendingRequestAsync = .waitingForAck ∨
          State.sendingRequestAsync = .waitingForResponse) := by decide
      rw [hflight, hto]
      exact (htidy.marks (hmarks.mono (hposted ▸ List.subset_cons_self _ _))).inState
        fun hwait => absurd hwait hwaiting
  | @dequeued d rest cmdData commands hflight hposted hmarks hfrom hqueue hto =>
      have hready : c.writeInProgress = false ∧ .event .writeCompleted ∉ rest := by
        unfold Settled at hsettled
        rw [hposted] at hsettled
        exact hsettled hfrom (hqueue ▸ List.cons_ne_nil _ _)
      have htail : Tidy c.flight rest c.currentState :=
        htidy.marks (d := c.taken rest) fun handler hmem _ =>
          hposted ▸ List.mem_cons_of_mem _ hmem
      have hended : .writeEnd .none ∉ rest := fun hmem =>
        horderly.no_writeEnd hready.1 .none (hposted ▸ List.mem_cons_of_mem _ hmem)
      rw [hto]
      exact (htail.dequeued hready.1 hready.2 hended _ hflight).marks hmarks
  | started _ _ hflight hmarks hstate =>
      rw [hstate]
      exact (htidy.started hflight).marks hmarks
  | givenUp herror _ hflight hmarks hstate =>
      rw [hflight, hstate]
      refine ⟨htidy.queue, htidy.front, htidy.handed, fun hmem => ?_, fun hmem => ?_,
        htidy.waiting⟩
      · exact htidy.completed ((List.mem_cons.mp (hmarks _ hmem rfl)).resolve_left (by simp))
      · refine htidy.ended ((List.mem_cons.mp (hmarks _ hmem rfl)).resolve_left fun heq => ?_)
        exact herror (Handler.writeEnd.inj heq).symm
  | @written input d frame hframe hfrom hflight hmarks hstate =>
      obtain ⟨hprogress, -, -, -, front, hwriting, hfront⟩ := hfrom
      obtain rfl : frame = front := Option.some.inj (hframe.symm.trans hwriting)
      obtain ⟨other, hone, hlast⟩ := htidy.front hprogress
      have hsame : other = frame := by
        have hqueue : c.transmission.writeQueue = [other] := hone
        rw [hqueue] at hfront
        exact Option.some.inj hfront
      have hwritten : CurrentWritten (c.flight.written frame).log :=
        .inl (hsame ▸ congrArg (Option.map Prod.snd) hlast)
      rw [hflight, hstate]
      exact ⟨htidy.queue, htidy.front, htidy.handed, fun _ => hwritten, fun _ => hwritten,
        fun _ => hwritten⟩
  | @ended d error rest hposted hfrom hrest hflight hmarks hstate =>
      rw [hflight, hstate]
      refine htidy.popped hfrom.1 (fun hmem => ?_) fun hmem => ?_
      · rcases List.mem_cons.mp (hmarks _ hmem rfl) with heq | hold
        · have hnone := verdict_eq_writeCompleted (Handler.event.inj heq).symm
          exact htidy.ended (hposted ▸ hnone ▸ List.mem_cons_self)
        · exact htidy.completed (hposted ▸ List.mem_cons_of_mem _ hold)
      · refine notMem_of_writeHandlers_nil hrest rfl
          ((List.mem_cons.mp (hmarks _ hmem rfl)).resolve_left (by simp))
  | dropped hfrom hflight hmarks hto =>
      rw [hflight, hto]
      have hpopped := htidy.popped hfrom.1
        (fun hmem => htidy.completed (hmarks _ hmem rfl))
        (fun hmem => hfrom.no_writeEnd .none (hmarks _ hmem rfl))
      exact ⟨hpopped.queue, hpopped.front, hpopped.handed, hpopped.completed, hpopped.ended,
        fun hwait => absurd hwait (by decide)⟩

theorem tidy_init (clock : Clock) :
    Tidy (init clock).flight (init clock).posted (init clock).currentState := by
  have hempty : Tidy (Client.flight { clock := clock, now := 0, lastSerialReadTime := 0 }) [] .idle :=
    ⟨fun _ => rfl, fun hprogress => Bool.noConfusion hprogress, trivial,
      fun hmem => absurd hmem List.not_mem_nil, fun hmem => absurd hmem List.not_mem_nil,
      fun hwait => absurd hwait (by decide)⟩
  have hstill : Still { clock := clock, now := 0, lastSerialReadTime := 0 } (init clock) :=
    ((Still.refl _).enqueueCommandOnIoThread _ _ _).enqueueCommandOnIoThread _ _ _
  rw [hstill.flight, hstill.2.1]
  exact hempty.marks hstill.marks

theorem lastDequeued_of_written {log : List Outcome} (hwritten : CurrentWritten log) :
    ∃ dequeued, lastDequeued log = some dequeued := by
  induction log with
  | nil => exact hwritten.elim
  | cons entry older ih =>
      cases entry with
      | dequeued cmd frame => exact ⟨_, rfl⟩
      | written frame =>
          rcases hwritten with hcurrent | hwritten
          · obtain ⟨dequeued, hdequeued, -⟩ := Option.map_eq_some_iff.mp hcurrent
            exact ⟨dequeued, hdequeued⟩
          · exact ih hwritten
      | _ => exact ih hwritten

theorem wireSound_of_tidy (hbooked : Booked c.flight c.posted)
    (htidy : Tidy c.flight c.posted c.currentState) : WireSound c := by
  have hlog : ∀ {dequeued : UptCmd × TxFrame}, lastDequeued c.log = some dequeued →
      lastDequeued c.flight.log = some dequeued :=
    fun hlast => (lastDequeued_wire c.log).trans hlast
  refine ⟨?_, (handedCurrent_wire c.log).mp htidy.handed, fun hwait => ?_⟩
  · cases hprogress : c.writeInProgress with
    | false => exact .inl (htidy.queue hprogress)
    | true =>
        obtain ⟨frame, hone, hlast⟩ := htidy.front hprogress
        exact .inr ⟨frame, hone, (lastDequeued_wire c.log).symm.trans hlast⟩
  · have hwritten : CurrentWritten c.log := (currentWritten_wire c.log).mp (htidy.waiting hwait)
    obtain ⟨⟨cmd, frame⟩, hlast⟩ := lastDequeued_of_written hwritten
    obtain ⟨hcmd, -⟩ := hbooked.current _ (hlog hlast)
    obtain rfl : cmd = c.currentCmd := hcmd
    exact ⟨⟨frame, hlast⟩, hwritten⟩

/-- In the runs in which a command is only taken when the write before is over, the frame on the
wire is that of the current command. -/
theorem wireSound_of_settled (clock : Clock) (inputs : List Input)
    (hmeets : Meets step Settled (init clock) inputs) :
    WireSound (run step (init clock) inputs) := by
  have hinvariant : ∀ (c : Client) (input : Input),
      Kept c ∧ Tidy c.flight c.posted c.currentState → Settled c input →
        Kept (c.step input) ∧
          Tidy (c.step input).flight (c.step input).posted (c.step input).currentState := by
    rintro c input ⟨hkept, htidy⟩ hsettled
    exact ⟨hkept.step input, htidy.move hkept.orderly hsettled (step_move hkept.orderly input)⟩
  obtain ⟨hkept, htidy⟩ := run_invariant hinvariant ⟨kept_init clock, tidy_init clock⟩ hmeets
  exact wireSound_of_tidy hkept.booked htidy

/-! ## Runs -/

/-- The clock of the runs below. -/
def morning : Clock :=
  { secondsSince1January0000 := 63881337600
    localTime :=
      { year := 2024, month := 5, day := 3, hour := 8, minute := 0, second := 0,
        year_ge := by decide, year_le := by decide, month_le := by decide, day_le := by decide,
        hour_le := by decide, minute_le := by decide, second_le := by decide } }

/-- A number of handlers. -/
def runs (count : ℕ) : List Input := List.replicate count .run

/-- The first command is taken from the queue and its frame handed to the port. -/
def firstCommand : List Input := .elapse 2000 :: runs 2

theorem wireSound_acknowledged :
    (run step (init morning) (firstCommand ++ .writeDone true :: runs 2)).currentState =
        .waitingForAck ∧
      WireSound (run step (init morning) (firstCommand ++ .writeDone true :: runs 2)) :=
  ⟨by decide +kernel, wireSound_of_settled morning _ (by decide +kernel)⟩

/-- A cancel request arrives while a write is in progress, which is completed when the next
command has been taken from the queue. -/
def cancelledWrite : List Input :=
  firstCommand ++ .cancelCommand :: runs 6 ++ .writeDone true :: runs 5

/-- The client waits for an answer to a command it has not sent. -/
theorem not_wireSound : ¬ WireSound (run step (init morning) cancelledWrite) := by
  intro hsound
  have hwaiting : (run step (init morning) cancelledWrite).currentState = .waitingForAck := by
    decide +kernel
  have hunwritten : ¬ CurrentWritten (run step (init morning) cancelledWrite).log := by
    decide +kernel
  exact hunwritten (hsound.waiting (.inl hwaiting)).2

end Client

end LinuxPBS.Upt

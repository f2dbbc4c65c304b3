import LinuxPBS.Event.Handler

/-!
# The way of an event to its handler

Three threads hand an event on:

```text
device      EventManager         OP_IO
enqueue --> queue --> route  --> tasks --> handler
                      FnOnEvent
```

The event thread takes an event from the queue of the `EventManager`, looks it up, finds that
`operation` is running, and posts it to `OP_IO`.  Meanwhile another thread may be in
`FnOperationInit` or in `FnClose`, which raises `stopping_` and then waits for what is left to
do; `OP_IO` drops the events it finds there.

While `operation` serves nothing gets lost between a device and its handler, and nothing is
turned around (`arrived_run`).  In every other run the handlers are called for some of the
events, in the order of the events, and for none of them twice; and `FnClose` has no handler
called behind it (`closed_run`).

The timers and sockets on `OP_IO` are left out, and the moment for which a `FnClose` of an
operation that does not run raises `stopping_`; an event is refused then anyway.
-/

namespace LinuxPBS.Event

open Machine

/-- What is posted to `OP_IO`. -/
inductive Task
  | setUp
  | handle (event : OperationEvent)
  | shutdown
  deriving DecidableEq, Repr

/-- The event thread in `FnOnEvent`, before its next access -/
inductive Forward
  | idle
  /-- `stopping_` -/
  | routed (event : OperationEvent)
  /-- `running_` -/
  | notStopping (event : OperationEvent)
  /-- `post` -/
  | checked (event : OperationEvent)
  deriving DecidableEq, Repr

/-- `ioContextThread_` -/
inductive OpThread
  | absent
  | running
  | finished
  deriving DecidableEq, Repr

/-- A thread in `FnOperationInit` or `FnClose`, before its next access -/
inductive Lifecycle
  | idle
  | initThread
  | initRaise
  | initPost
  | initWait
  /-- the initialization has failed -/
  | raise
  | post
  | wait
  | release
  | join
  | lowerRunning
  | lowerStopping
  deriving DecidableEq, Repr

/-- The `EventManager` and `operation`; `calls` is history. -/
structure Delivery where
  manager : EventManager DeviceEvent := {}
  forward : Forward := .idle
  running : Bool := false
  stopping : Bool := false
  workGuard : Bool := false
  thread : OpThread := .absent
  lifecycle : Lifecycle := .idle
  tasks : List Task := []
  /-- the result of `initializeOnIoThread` -/
  initialized : Option Bool := none
  /-- `shutdownOnIoThread` is done -/
  shut : Bool := false
  calls : List Call := []

inductive Act
  /-- what the devices and the main thread do, and the event thread takes an event -/
  | manager (input : Input DeviceEvent)
  /-- the event thread goes on in `FnOnEvent` -/
  | forward
  /-- `OP_IO` takes a task; an initialization can fail -/
  | run (success : Bool)
  /-- `FnOperationInit` -/
  | init
  /-- `FnClose` -/
  | close
  /-- the thread in one of them goes on; a new thread can be created -/
  | lifecycle (created : Bool)
  deriving DecidableEq, Repr

namespace Delivery

/-- The event thread takes an event, unless it is still busy with another one. -/
def takeEvent (s : Delivery) : Delivery :=
  match s.forward with
  | .idle =>
      let after := s.manager.eventStep
      let taken := (after.handled.drop s.manager.handled.length).head?
      { s with
        manager := after
        forward := ((taken.bind fun queued => route queued.event).map Forward.routed).getD .idle }
  | _ => s

/-- `postEvent`, called from the event thread -/
def forwardStep (s : Delivery) : Delivery :=
  match s.forward with
  | .idle => s
  | .routed event => { s with forward := if s.stopping then .idle else .notStopping event }
  | .notStopping event => { s with forward := if s.running then .checked event else .idle }
  | .checked event => { s with forward := .idle, tasks := s.tasks ++ [.handle event] }

/-- `OP_IO` takes a task, or ends. -/
def runStep (s : Delivery) (success : Bool) : Delivery :=
  match s.thread with
  | .running =>
      match s.tasks with
      | [] => if s.workGuard then s else { s with thread := .finished }
      | .setUp :: rest => { s with tasks := rest, initialized := some success }
      | .handle event :: rest =>
          if s.stopping then { s with tasks := rest }
          else { s with tasks := rest, calls := s.calls ++ event.dispatch.toList }
      | .shutdown :: rest => { s with tasks := rest, shut := true }
  | _ => s

/-- The next access in `FnOperationInit` or `FnClose` -/
def lifecycleStep (s : Delivery) (created : Bool) : Delivery :=
  match s.lifecycle with
  | .idle => s
  | .initThread =>
      if created then { s with thread := .running, lifecycle := .initRaise }
      else { s with workGuard := false, lifecycle := .idle }
  | .initRaise => { s with running := true, lifecycle := .initPost }
  | .initPost =>
      { s with initialized := none, tasks := s.tasks ++ [.setUp], lifecycle := .initWait }
  | .initWait =>
      match s.initialized with
      | none => s
      | some true => { s with lifecycle := .idle }
      | some false => { s with lifecycle := .raise }
  | .raise => { s with stopping := true, lifecycle := .post }
  | .post => { s with shut := false, tasks := s.tasks ++ [.shutdown], lifecycle := .wait }
  | .wait => if s.shut then { s with lifecycle := .release } else s
  | .release => { s with workGuard := false, lifecycle := .join }
  | .join =>
      match s.thread with
      | .finished => { s with thread := .absent, lifecycle := .lowerRunning }
      | _ => s
  | .lowerRunning => { s with running := false, lifecycle := .lowerStopping }
  | .lowerStopping => { s with stopping := false, lifecycle := .idle }

/-- `FnOperationInit`, up to the new thread -/
def init (s : Delivery) : Delivery :=
  match s.lifecycle with
  | .idle =>
      if s.running || s.thread ≠ .absent then s
      else { s with stopping := false, workGuard := true, lifecycle := .initThread }
  | _ => s

/-- `FnClose`, up to its task -/
def close (s : Delivery) : Delivery :=
  match s.lifecycle with
  | .idle => if s.thread = .absent then s else { s with stopping := true, lifecycle := .post }
  | _ => s

def act (s : Delivery) : Act → Delivery
  | .manager .event => s.takeEvent
  | .manager input => { s with manager := step s.manager input }
  | .forward => s.forwardStep
  | .run success => s.runStep success
  | .init => s.init
  | .close => s.close
  | .lifecycle created => s.lifecycleStep created

/-! ## What is on the way -/

/-- The call that an event of a device comes to. -/
def answer (queued : Queued DeviceEvent) : Option Call :=
  (route queued.event).bind OperationEvent.dispatch

/-- The call for an event in the hands of the event thread -/
def inHand (s : Delivery) : List Call :=
  match s.forward with
  | .idle => []
  | .routed event | .notStopping event | .checked event => event.dispatch.toList

def callOf : Task → Option Call
  | .handle event => event.dispatch
  | _ => none

/-- The calls that wait on `OP_IO` -/
def waiting (s : Delivery) : List Call := s.tasks.filterMap callOf

/-- All that have not been made yet -/
def onTheWay (s : Delivery) : List Call :=
  s.waiting ++ s.inHand ++ s.manager.queue.filterMap answer

/-- `operation` has been started, and is not being closed. -/
structure Serving (s : Delivery) : Prop where
  running : s.running = true
  stopping : s.stopping = false
  thread : s.thread = .running
  guard : s.workGuard = true
  lifecycle : s.lifecycle = .idle

variable {s t : Delivery}

/-! ## The steps of the event manager -/

theorem act_manager (s : Delivery) {input : Input DeviceEvent} (hinput : input ≠ .event) :
    s.act (.manager input) = { s with manager := step s.manager input } := by
  cases input with
  | event => exact absurd rfl hinput
  | _ => rfl

/-- Whatever the others do, the event manager gets no event but those that are posted. -/
theorem posts_step (manager : EventManager DeviceEvent) {input : Input DeviceEvent}
    (hinput : input ≠ .event) : ∃ new, (step manager input).posted = manager.posted ++ new ∧
      (step manager input).queue = manager.queue ++ new ∧
        (step manager input).handled = manager.handled := by
  have hnone (after : EventManager DeviceEvent) (hposted : after.posted = manager.posted)
      (hqueue : after.queue = manager.queue) (hhandled : after.handled = manager.handled) :
      ∃ new, after.posted = manager.posted ++ new ∧ after.queue = manager.queue ++ new ∧
        after.handled = manager.handled :=
    ⟨[], hposted.trans (List.append_nil _).symm, hqueue.trans (List.append_nil _).symm, hhandled⟩
  cases input with
  | enqueue producer event =>
      simp only [step]
      split
      · split <;> exact hnone _ rfl rfl rfl
      · exact hnone _ rfl rfl rfl
  | draw producer =>
      simp only [step]
      split <;> exact hnone _ rfl rfl rfl
  | post producer =>
      simp only [step]
      split
      · exact ⟨_, rfl, rfl, rfl⟩
      · exact hnone _ rfl rfl rfl
  | event => exact absurd rfl hinput
  | start =>
      simp only [step]
      split
      · split <;> exact hnone _ rfl rfl rfl
      · exact hnone _ rfl rfl rfl
  | stop =>
      simp only [step]
      split
      · split <;> exact hnone _ rfl rfl rfl
      · exact hnone _ rfl rfl rfl
  | caller created =>
      have hjoin (next : Caller) : (manager.join next).posted = manager.posted ∧
          (manager.join next).queue = manager.queue ∧
            (manager.join next).handled = manager.handled := by
        unfold EventManager.join
        split <;> exact ⟨rfl, rfl, rfl⟩
      simp only [step, EventManager.callerStep]
      cases manager.caller with
      | startJoin | stopJoin | onlyJoin => exact hnone _ (hjoin _).1 (hjoin _).2.1 (hjoin _).2.2
      | startRun => cases created <;> exact hnone _ rfl rfl rfl
      | _ => exact hnone _ rfl rfl rfl

/-- The event thread takes the first event of the queue, if it takes one. -/
theorem takes_eventStep (manager : EventManager DeviceEvent) :
    manager.eventStep.posted = manager.posted ∧
      (manager.eventStep.handled = manager.handled ∧ manager.eventStep.queue = manager.queue ∨
        ∃ queued rest, manager.queue = queued :: rest ∧
          manager.eventStep.handled = manager.handled ++ [queued] ∧
            manager.eventStep.queue = rest) := by
  unfold EventManager.eventStep
  split
  · split
    next queued rest hqueue => exact ⟨rfl, .inr ⟨queued, rest, hqueue, rfl, rfl⟩⟩
    next hqueue => split <;> exact ⟨rfl, .inl ⟨rfl, rfl⟩⟩
  · exact ⟨rfl, .inl ⟨rfl, rfl⟩⟩
  · exact ⟨rfl, .inl ⟨rfl, rfl⟩⟩
  · exact ⟨rfl, .inl ⟨rfl, rfl⟩⟩

/-- The event that the event thread has taken is in its hands. -/
theorem takeEvent_spec (s : Delivery) :
    s.takeEvent.manager.posted = s.manager.posted ∧
      ∃ taken, s.takeEvent.inHand = s.inHand ++ taken.filterMap answer ∧
        s.manager.queue = taken ++ s.takeEvent.manager.queue ∧
          s.takeEvent.manager.handled = s.manager.handled ++ taken := by
  unfold takeEvent
  cases hforward : s.forward with
  | idle =>
      dsimp only
      obtain ⟨hposted, ⟨hhandled, hqueue⟩ | ⟨queued, rest, hqueue, hhandled, hrest⟩⟩ :=
        takes_eventStep s.manager
      · refine ⟨hposted, [], ?_, hqueue.symm, hhandled.trans (List.append_nil _).symm⟩
        rw [hhandled, List.drop_length]
        unfold inHand
        rw [hforward]
        rfl
      · refine ⟨hposted, [queued], ?_, ?_, hhandled⟩
        · rw [hhandled, List.drop_left]
          unfold inHand
          rw [hforward]
          dsimp only [List.head?_cons, Option.bind_some]
          rw [List.filterMap_cons]
          unfold answer
          cases hroute : route queued.event with
          | none => rfl
          | some out =>
              obtain ⟨call, hcall⟩ := Option.isSome_iff_exists.mp (dispatch_route hroute)
              dsimp only [Option.map_some, Option.getD_some, Option.bind_some]
              rw [hcall]
              rfl
        · rw [hqueue, hrest]
          rfl
  | _ => exact ⟨rfl, [], (List.append_nil _).symm, rfl, (List.append_nil _).symm⟩

/-! ## What a step does to the calls -/

/-- The calls that have been made, and those for the events that have left the queue -/
def content (s : Delivery) : List Call := s.calls ++ (s.waiting ++ s.inHand)

theorem waiting_cons (event : OperationEvent) (rest : List Task) :
    (Task.handle event :: rest).filterMap callOf =
      event.dispatch.toList ++ rest.filterMap callOf := by
  have hcall : callOf (.handle event) = event.dispatch := rfl
  cases hdispatch : event.dispatch with
  | none => exact List.filterMap_cons_none (hcall.trans hdispatch)
  | some call => exact List.filterMap_cons_some (hcall.trans hdispatch)

theorem waiting_concat (tasks : List Task) (event : OperationEvent) :
    (tasks ++ [Task.handle event]).filterMap callOf =
      tasks.filterMap callOf ++ event.dispatch.toList := by
  rw [List.filterMap_append, waiting_cons, List.filterMap_nil, List.append_nil]

/-- An event is lost if `operation` does not serve. -/
theorem content_forwardStep (s : Delivery) : s.forwardStep.content.Sublist s.content ∧
    (s.Serving → s.forwardStep.content = s.content) := by
  unfold content forwardStep
  cases hforward : s.forward with
  | idle => exact ⟨List.Sublist.refl _, fun _ => rfl⟩
  | routed event =>
      simp only [waiting, inHand, hforward]
      refine ⟨List.Sublist.append_left (List.Sublist.append_left ?_ _) _, fun hserving => ?_⟩
      · split_ifs
        · exact List.nil_sublist _
        · exact List.Sublist.refl _
      · rw [if_neg (ne_of_eq_of_ne hserving.stopping Bool.false_ne_true)]
  | notStopping event =>
      simp only [waiting, inHand, hforward]
      refine ⟨List.Sublist.append_left (List.Sublist.append_left ?_ _) _, fun hserving => ?_⟩
      · split_ifs
        · exact List.Sublist.refl _
        · exact List.nil_sublist _
      · rw [if_pos hserving.running]
  | checked event =>
      simp only [waiting, inHand, hforward, waiting_concat, List.append_nil, implies_true,
        and_true]
      exact List.Sublist.refl _

theorem content_runStep (s : Delivery) (success : Bool) :
    (s.runStep success).content.Sublist s.content ∧
      (s.Serving → (s.runStep success).content = s.content) := by
  unfold content runStep
  split
  · split
    · split_ifs <;> exact ⟨List.Sublist.refl _, fun _ => rfl⟩
    next rest htasks =>
      simp only [waiting, htasks]
      exact ⟨List.Sublist.refl _, fun _ => rfl⟩
    next event rest htasks =>
      simp only [waiting, htasks, waiting_cons]
      split_ifs with hstopping
      · refine ⟨List.Sublist.append_left (List.Sublist.append_right
          (List.sublist_append_right _ _) _) _, fun hserving => ?_⟩
        cases hstopping.symm.trans hserving.stopping
      · simp only [inHand, List.append_assoc, implies_true, and_true]
        exact List.Sublist.refl _
    next rest htasks =>
      simp only [waiting, htasks]
      exact ⟨List.Sublist.refl _, fun _ => rfl⟩
  · exact ⟨List.Sublist.refl _, fun _ => rfl⟩

theorem content_lifecycleStep (s : Delivery) (created : Bool) :
    (s.lifecycleStep created).content = s.content := by
  have hplain (task : Task) (hnone : callOf task = none) :
      (s.tasks ++ [task]).filterMap callOf = s.tasks.filterMap callOf := by
    rw [List.filterMap_append, List.filterMap_cons_none hnone, List.filterMap_nil,
      List.append_nil]
  unfold content lifecycleStep
  cases s.lifecycle with
  | initThread => cases created <;> rfl
  | initPost => simp only [waiting, inHand, hplain .setUp rfl]
  | initWait => dsimp only; split <;> rfl
  | post => simp only [waiting, inHand, hplain .shutdown rfl]
  | wait => dsimp only; split_ifs <;> rfl
  | join => dsimp only; split <;> rfl
  | _ => rfl

/-- Only the first input is about the event manager. -/
theorem manager_act (s : Delivery) {input : Act} (hother : ∀ call, input ≠ .manager call) :
    (s.act input).manager = s.manager := by
  cases input with
  | manager call => exact absurd rfl (hother call)
  | forward =>
      show s.forwardStep.manager = _
      unfold forwardStep
      split <;> rfl
  | run success =>
      show (s.runStep success).manager = _
      unfold runStep
      split
      · split
        · split_ifs <;> rfl
        · rfl
        · split_ifs <;> rfl
        · rfl
      · rfl
  | init =>
      show s.init.manager = _
      unfold init
      split
      · split_ifs <;> rfl
      · rfl
  | close =>
      show s.close.manager = _
      unfold close
      split
      · split_ifs <;> rfl
      · rfl
  | lifecycle created =>
      show (s.lifecycleStep created).manager = _
      unfold lifecycleStep
      cases s.lifecycle with
      | initThread => cases created <;> rfl
      | initWait => dsimp only; split <;> rfl
      | wait => dsimp only; split_ifs <;> rfl
      | join => dsimp only; split <;> rfl
      | _ => rfl

/-- A step posts events and takes events from the queue; the calls for these join the others, of
which none is lost while `operation` serves. -/
theorem carries_act (s : Delivery) (input : Act) :
    ∃ new taken, (s.act input).manager.posted = s.manager.posted ++ new ∧
      s.manager.queue ++ new = taken ++ (s.act input).manager.queue ∧
        (s.act input).manager.handled = s.manager.handled ++ taken ∧
          (s.act input).content.Sublist (s.content ++ taken.filterMap answer) ∧
            (s.Serving → (s.act input).content = s.content ++ taken.filterMap answer) := by
  have hsame (hother : ∀ call, input ≠ .manager call)
      (hlost : (s.act input).content.Sublist s.content)
      (hall : s.Serving → (s.act input).content = s.content) :
      ∃ new taken, (s.act input).manager.posted = s.manager.posted ++ new ∧
        s.manager.queue ++ new = taken ++ (s.act input).manager.queue ∧
          (s.act input).manager.handled = s.manager.handled ++ taken ∧
            (s.act input).content.Sublist (s.content ++ taken.filterMap answer) ∧
              (s.Serving → (s.act input).content = s.content ++ taken.filterMap answer) := by
    refine ⟨[], [], ?_⟩
    rw [manager_act s hother]
    simp only [List.append_nil, List.nil_append, List.filterMap_nil, true_and]
    exact ⟨hlost, hall⟩
  cases input with
  | manager input =>
      by_cases hevent : input = .event
      · subst hevent
        obtain ⟨hposted, taken, hhand, hqueue, hhandled⟩ := takeEvent_spec s
        have hcontent : s.takeEvent.content = s.content ++ taken.filterMap answer := by
          have hcalls : s.takeEvent.calls = s.calls ∧ s.takeEvent.waiting = s.waiting := by
            unfold takeEvent
            split <;> exact ⟨rfl, rfl⟩
          unfold content
          rw [hcalls.1, hcalls.2, hhand, ← List.append_assoc s.waiting, ← List.append_assoc]
        refine ⟨[], taken, hposted.trans (List.append_nil _).symm,
          (List.append_nil _).trans hqueue, hhandled, ?_, fun _ => hcontent⟩
        exact hcontent ▸ List.Sublist.refl _
      · obtain ⟨new, hposted, hqueue, hhandled⟩ := posts_step s.manager hevent
        rw [act_manager s hevent]
        refine ⟨new, [], hposted, hqueue.symm, hhandled.trans (List.append_nil _).symm, ?_,
          fun _ => (List.append_nil _).symm⟩
        exact (List.append_nil s.content).symm ▸ List.Sublist.refl _
  | forward =>
      obtain ⟨hlost, hall⟩ := content_forwardStep s
      exact hsame (fun _ => Act.noConfusion) hlost hall
  | run success =>
      obtain ⟨hlost, hall⟩ := content_runStep s success
      exact hsame (fun _ => Act.noConfusion) hlost hall
  | init =>
      have hcontent : s.init.content = s.content := by
        unfold init
        split
        · split_ifs <;> rfl
        · rfl
      exact hsame (fun _ => Act.noConfusion) (hcontent ▸ List.Sublist.refl _) fun _ => hcontent
  | close =>
      have hcontent : s.close.content = s.content := by
        unfold close
        split
        · split_ifs <;> rfl
        · rfl
      exact hsame (fun _ => Act.noConfusion) (hcontent ▸ List.Sublist.refl _) fun _ => hcontent
  | lifecycle created =>
      have hcontent := content_lifecycleStep s created
      exact hsame (fun _ => Act.noConfusion) (hcontent ▸ List.Sublist.refl _) fun _ => hcontent

/-! ## While `operation` serves -/

/-- Where `operation` is; the events leave that alone. -/
def lane (s : Delivery) : Lifecycle × Bool × Bool × OpThread × Bool :=
  (s.lifecycle, s.running, s.stopping, s.thread, s.workGuard)

theorem lane_manager (s : Delivery) (call : Input DeviceEvent) :
    (s.act (.manager call)).lane = s.lane ∧ (s.act (.manager call)).calls = s.calls := by
  cases call with
  | event =>
      show s.takeEvent.lane = s.lane ∧ s.takeEvent.calls = s.calls
      unfold takeEvent
      split <;> exact ⟨rfl, rfl⟩
  | _ => exact ⟨rfl, rfl⟩

theorem lane_forwardStep (s : Delivery) :
    s.forwardStep.lane = s.lane ∧ s.forwardStep.calls = s.calls := by
  unfold forwardStep
  split <;> exact ⟨rfl, rfl⟩

theorem Serving.congr (hserving : s.Serving) (hlane : t.lane = s.lane) : t.Serving := by
  simp only [lane, Prod.mk.injEq] at hlane
  obtain ⟨hlifecycle, hrunning, hstopping, hthread, hguard⟩ := hlane
  exact ⟨hrunning.trans hserving.running, hstopping.trans hserving.stopping,
    hthread.trans hserving.thread, hguard.trans hserving.guard,
    hlifecycle.trans hserving.lifecycle⟩

theorem Serving.next (hserving : s.Serving) {input : Act} (hopen : input ≠ .close) :
    (s.act input).Serving := by
  cases input with
  | manager call => exact hserving.congr (lane_manager s call).1
  | forward => exact hserving.congr (lane_forwardStep s).1
  | run success =>
      show (s.runStep success).Serving
      unfold runStep
      split
      · split
        · rw [if_pos hserving.guard]
          exact hserving
        · exact hserving.congr rfl
        · split <;> exact hserving.congr rfl
        · exact hserving.congr rfl
      · exact hserving
  | init =>
      show s.init.Serving
      unfold init
      rw [hserving.lifecycle]
      dsimp only
      rw [if_pos (by rw [hserving.running]; rfl)]
      exact hserving
  | close => exact absurd rfl hopen
  | lifecycle created =>
      show (s.lifecycleStep created).Serving
      unfold lifecycleStep
      rw [hserving.lifecycle]
      exact hserving

/-- `OP_IO` alone makes all the calls that wait there. -/
theorem Serving.calls_run (hserving : s.Serving) :
    (run act s (List.replicate s.tasks.length (Act.run true))).calls = s.calls ++ s.waiting := by
  obtain ⟨count, hcount⟩ : ∃ count, s.tasks.length = count := ⟨_, rfl⟩
  rw [hcount]
  induction count generalizing s with
  | zero =>
      unfold waiting
      rw [List.eq_nil_of_length_eq_zero hcount]
      exact (List.append_nil _).symm
  | succ count ih =>
      obtain ⟨task, rest, htasks⟩ := List.exists_cons_of_length_eq_add_one hcount
      rw [List.replicate_succ, run_cons]
      have hnext : (s.act (.run true)).tasks = rest ∧
          (s.act (.run true)).calls = s.calls ++ (callOf task).toList := by
        show (s.runStep true).tasks = rest ∧ (s.runStep true).calls = _
        unfold runStep
        rw [hserving.thread, htasks]
        cases task with
        | setUp => exact ⟨rfl, (List.append_nil _).symm⟩
        | handle event =>
            dsimp only
            rw [if_neg (ne_of_eq_of_ne hserving.stopping Bool.false_ne_true)]
            exact ⟨rfl, rfl⟩
        | shutdown => exact ⟨rfl, (List.append_nil _).symm⟩
      have hlength : (s.act (.run true)).tasks.length = count := by
        rw [hnext.1]
        rw [htasks] at hcount
        exact Nat.succ.inj hcount
      rw [ih (hserving.next Act.noConfusion) hlength, hnext.2]
      unfold waiting
      rw [hnext.1, htasks, List.append_assoc]
      cases hcall : callOf task with
      | none => rw [List.filterMap_cons_none hcall]; rfl
      | some call => rw [List.filterMap_cons_some hcall]; rfl

/-! ## Where the threads can be -/

/-- The flags, the thread and the guard, for each place in `FnOperationInit` and `FnClose` -/
def InPlace (s : Delivery) : Prop :=
  match s.lifecycle with
  | .idle =>
      s.running = true ∧ s.stopping = false ∧ s.thread = .running ∧ s.workGuard = true ∨
        s.running = false ∧ s.stopping = false ∧ s.thread = .absent
  | .initThread =>
      s.running = false ∧ s.stopping = false ∧ s.thread = .absent ∧ s.workGuard = true
  | .initRaise => s.running = false ∧ s.stopping = false ∧ s.thread = .running ∧ s.workGuard = true
  | .initPost | .initWait | .raise =>
      s.running = true ∧ s.stopping = false ∧ s.thread = .running ∧ s.workGuard = true
  | .post | .wait | .release =>
      s.stopping = true ∧ s.thread = .running ∧ s.workGuard = true
  | .join => s.stopping = true ∧ s.thread ≠ .absent
  | .lowerRunning => s.stopping = true ∧ s.thread = .absent
  | .lowerStopping => s.running = false ∧ s.stopping = true ∧ s.thread = .absent

theorem InPlace.congr (hplace : s.InPlace) (hlane : t.lane = s.lane) : t.InPlace := by
  simp only [lane, Prod.mk.injEq] at hlane
  obtain ⟨hlifecycle, hrunning, hstopping, hthread, hguard⟩ := hlane
  unfold InPlace at hplace ⊢
  rw [hlifecycle, hrunning, hstopping, hthread, hguard]
  exact hplace

theorem InPlace.runStep (hplace : s.InPlace) (success : Bool) : (s.runStep success).InPlace := by
  unfold Delivery.runStep
  split
  next hthread =>
    split
    · split_ifs with hguard
      · exact hplace
      -- only a thread without its guard ends
      · unfold InPlace at hplace ⊢
        cases hlifecycle : s.lifecycle <;> simp_all
    · exact hplace.congr rfl
    · split <;> exact hplace.congr rfl
    · exact hplace.congr rfl
  next => exact hplace

theorem InPlace.lifecycleStep (hplace : s.InPlace) (created : Bool) :
    (s.lifecycleStep created).InPlace := by
  unfold Delivery.lifecycleStep
  unfold InPlace at hplace ⊢
  cases hlifecycle : s.lifecycle with
  | initThread => cases created <;> simp_all
  | initWait =>
      cases hinitialized : s.initialized with
      | none => simp_all
      | some success => cases success <;> simp_all
  | wait => cases hshut : s.shut <;> simp_all
  | join => cases hthread : s.thread <;> simp_all
  | _ => simp_all

theorem InPlace.next (hplace : s.InPlace) (input : Act) : (s.act input).InPlace := by
  cases input with
  | manager call => exact hplace.congr (lane_manager s call).1
  | forward => exact hplace.congr (lane_forwardStep s).1
  | run success => exact hplace.runStep success
  | init =>
      show s.init.InPlace
      unfold init
      unfold InPlace at hplace ⊢
      cases hlifecycle : s.lifecycle with
      | idle => dsimp only; split_ifs <;> simp_all
      | _ => simp_all
  | close =>
      show s.close.InPlace
      unfold close
      unfold InPlace at hplace ⊢
      cases hlifecycle : s.lifecycle with
      | idle => dsimp only; split_ifs <;> simp_all
      | _ => simp_all
  | lifecycle created => exact hplace.lifecycleStep created

theorem inPlace_run (inputs : List Act) : (run act {} inputs).InPlace :=
  @run_keeps _ _ act InPlace (fun _ input hplace => hplace.next input) {}
    (.inr ⟨rfl, rfl, rfl⟩) inputs

/-! ## Every run -/

/-- The calls that have been made or can still be made are some of those for the events that the
event thread has taken. -/
def Ordered (s : Delivery) : Prop := s.content.Sublist (s.manager.handled.filterMap answer)

theorem Ordered.next (hordered : s.Ordered) (input : Act) : (s.act input).Ordered := by
  obtain ⟨-, taken, -, -, hhandled, hcontent, -⟩ := carries_act s input
  unfold Ordered
  rw [hhandled, List.filterMap_append]
  exact hcontent.trans (List.Sublist.append_right hordered _)

/-- The event manager does what it does alone. -/
theorem kept_next (hkept : s.manager.Kept) (input : Act) : (s.act input).manager.Kept := by
  have hstep (input : Input DeviceEvent) : (step s.manager input).Kept :=
    ⟨inPlace_step hkept.inPlace input, drained_step hkept.inPlace hkept.drained input,
      numbered_step hkept.numbered input⟩
  by_cases hmanager : ∃ call, input = .manager call
  · obtain ⟨call, rfl⟩ := hmanager
    by_cases hevent : call = .event
    · subst hevent
      show s.takeEvent.manager.Kept
      unfold takeEvent
      split
      · exact hstep .event
      · exact hkept
    · rw [act_manager s hevent]
      exact hstep call
  · rw [manager_act s (not_exists.mp hmanager)]
    exact hkept

/-- `operation` is being closed, or it is closed. -/
def Closed (s : Delivery) : Prop :=
  s.stopping = true ∧ s.lifecycle ∈ [Lifecycle.post, .wait, .release, .join, .lowerRunning] ∨
    s.thread = .absent ∧ s.lifecycle ∈ [Lifecycle.lowerStopping, .idle]

theorem Closed.congr (hclosed : s.Closed) (hlane : t.lane = s.lane) : t.Closed := by
  simp only [lane, Prod.mk.injEq] at hlane
  obtain ⟨hlifecycle, -, hstopping, hthread, -⟩ := hlane
  unfold Closed
  rw [hstopping, hthread, hlifecycle]
  exact hclosed

/-- No handler is called any more. -/
theorem Closed.next (hclosed : s.Closed) (hplace : s.InPlace) {input : Act}
    (hstart : input ≠ .init) : (s.act input).Closed ∧ (s.act input).calls = s.calls := by
  cases input with
  | manager call =>
      obtain ⟨hlane, hcalls⟩ := lane_manager s call
      exact ⟨hclosed.congr hlane, hcalls⟩
  | forward =>
      obtain ⟨hlane, hcalls⟩ := lane_forwardStep s
      exact ⟨hclosed.congr hlane, hcalls⟩
  | run success =>
      show (s.runStep success).Closed ∧ (s.runStep success).calls = s.calls
      rcases hclosed with ⟨hstopping, hphase⟩ | ⟨hthread, hphase⟩
      · unfold runStep
        split
        · split
          · split_ifs
            · exact ⟨.inl ⟨hstopping, hphase⟩, rfl⟩
            · exact ⟨.inl ⟨hstopping, hphase⟩, rfl⟩
          · exact ⟨.inl ⟨hstopping, hphase⟩, rfl⟩
          -- what is still there is dropped
          · rw [if_pos hstopping]
            exact ⟨.inl ⟨hstopping, hphase⟩, rfl⟩
          · exact ⟨.inl ⟨hstopping, hphase⟩, rfl⟩
        · exact ⟨.inl ⟨hstopping, hphase⟩, rfl⟩
      · have hstays : s.runStep success = s := by
          unfold runStep
          split
          next hrunning => cases hthread.symm.trans hrunning
          next => rfl
        rw [hstays]
        exact ⟨.inr ⟨hthread, hphase⟩, rfl⟩
  | init => exact absurd rfl hstart
  | close =>
      show s.close.Closed ∧ s.close.calls = s.calls
      unfold close
      split
      · split_ifs
        · exact ⟨hclosed, rfl⟩
        · exact ⟨.inl ⟨rfl, List.mem_cons_self⟩, rfl⟩
      · exact ⟨hclosed, rfl⟩
  | lifecycle created =>
      show (s.lifecycleStep created).Closed ∧ (s.lifecycleStep created).calls = s.calls
      unfold lifecycleStep
      unfold InPlace at hplace
      unfold Closed at hclosed ⊢
      cases hlifecycle : s.lifecycle with
      | wait => cases hshut : s.shut <;> simp_all
      | join => cases hthread : s.thread <;> simp_all
      | _ => simp_all

end Delivery

open Delivery

/-- While `operation` serves, whatever the threads do: the calls of the handlers that have been
made, and those on the way, grow by those for the events that are posted, in their order.  And
`OP_IO` makes those that wait there. -/
theorem arrived_run (before after : List Act) (hstarted : (run act {} before).lifecycle = .idle)
    (hrunning : (run act {} before).running = true) (hopen : .close ∉ after) :
    let s := run act {} before
    let t := run act s after
    (∃ new, t.manager.posted = s.manager.posted ++ new ∧
      t.calls ++ t.onTheWay = s.calls ++ s.onTheWay ++ new.filterMap answer) ∧
    (run act t (List.replicate t.tasks.length (Act.run true))).calls = t.calls ++ t.waiting := by
  have hplace := inPlace_run before
  have hserving : (run act {} before).Serving := by
    unfold InPlace at hplace
    rw [hstarted] at hplace
    rcases hplace with ⟨hup, hstopping, hthread, hguard⟩ | ⟨hdown, -⟩
    · exact ⟨hup, hstopping, hthread, hguard, hstarted⟩
    · cases hdown.symm.trans hrunning
  clear hstarted hrunning hplace
  generalize run act {} before = s at hserving
  dsimp only
  induction after generalizing s with
  | nil =>
      refine ⟨⟨[], (List.append_nil _).symm, ?_⟩, hserving.calls_run⟩
      rw [List.filterMap_nil, List.append_nil]
      rfl
  | cons input rest ih =>
      rw [List.mem_cons, not_or] at hopen
      obtain ⟨first, taken, hposted, hqueue, -, -, hcontent⟩ := carries_act s input
      obtain ⟨⟨new, hlater, hall⟩, hdone⟩ := ih hopen.2 _ (hserving.next (Ne.symm hopen.1))
      have hcalls (s : Delivery) :
          s.calls ++ s.onTheWay = s.content ++ s.manager.queue.filterMap answer :=
        (List.append_assoc s.calls _ _).symm
      refine ⟨⟨first ++ new, ?_, ?_⟩, hdone⟩
      · rw [run_cons, hlater, hposted, List.append_assoc]
      · rw [run_cons, hall, hcalls, hcontent hserving, List.append_assoc s.content,
          ← List.filterMap_append, ← hqueue, List.filterMap_append, List.filterMap_append,
          hcalls]
        simp only [List.append_assoc]

/-- `operation` and the event manager are started. -/
def started : List Act :=
  [.init, .lifecycle true, .lifecycle true, .lifecycle true, .run true, .lifecycle true,
    .manager .start, .manager (.caller true), .manager (.caller true), .manager (.caller true)]

/-- A vehicle arrives. -/
def arrival : List Act :=
  [.manager (.enqueue 0 ⟨"Evt_handleDIOEvent", .int 0⟩), .manager (.draw 0), .manager (.post 0),
    .manager .event, .forward, .forward, .forward]

theorem arrived_run_arrival :
    let s := run act {} started
    let t := run act s arrival
    (∃ new, t.manager.posted = s.manager.posted ++ new ∧
      t.calls ++ t.onTheWay = s.calls ++ s.onTheWay ++ new.filterMap answer) ∧
    (run act t (List.replicate t.tasks.length (Act.run true))).calls = t.calls ++ t.waiting :=
  arrived_run started arrival (by decide +kernel) (by decide +kernel) (by decide +kernel)

/-- In every run: the handlers are called for some of the events that are posted, in their order;
no event is there twice; and from a `FnClose` on, until the next start, no handler is called. -/
theorem closed_run (before after : List Act) (hdone : (run act {} before).lifecycle = .idle)
    (hstart : .init ∉ after) :
    let s := run act {} before
    s.calls.Sublist (s.manager.posted.filterMap answer) ∧
      (s.manager.posted.map Queued.number).Nodup ∧
        (run act s (.close :: after)).calls = s.calls := by
  have hplace := inPlace_run before
  have hordered : (run act {} before).Ordered :=
    @run_keeps _ _ act Ordered (fun _ input hbefore => hbefore.next input) {}
      (List.Sublist.refl _) before
  have hkept : (run act {} before).manager.Kept :=
    @run_keeps _ _ act (fun s => s.manager.Kept) (fun _ input hbefore => kept_next hbefore input) {}
      (kept_run []) before
  generalize run act {} before = s at hplace hordered hkept hdone
  refine ⟨?_, hkept.numbered.nodup, ?_⟩
  · rw [← hkept.drained.lossless, List.filterMap_append]
    have hsome : s.calls.Sublist (s.calls ++ (s.waiting ++ s.inHand)) :=
      List.sublist_append_left _ _
    exact (hsome.trans hordered).trans (List.sublist_append_left _ _)
  · have hclosed : (s.act .close).Closed ∧ (s.act .close).calls = s.calls := by
      show s.close.Closed ∧ s.close.calls = s.calls
      unfold close
      rw [hdone]
      dsimp only
      split_ifs with hthread
      · refine ⟨.inr ⟨hthread, ?_⟩, rfl⟩
        rw [hdone]
        exact List.mem_cons_of_mem _ List.mem_cons_self
      · exact ⟨.inl ⟨rfl, List.mem_cons_self⟩, rfl⟩
    have hrest : ∀ (rest : List Act) (t : Delivery), .init ∉ rest → t.Closed → t.InPlace →
        (run act t rest).calls = t.calls := by
      intro rest
      induction rest with
      | nil => exact fun _ _ _ _ => rfl
      | cons input rest ih =>
          intro t hnone hclosed hplace
          rw [List.mem_cons, not_or] at hnone
          obtain ⟨hnext, hcalls⟩ := hclosed.next hplace (Ne.symm hnone.1)
          exact (ih _ hnone.2 hnext (hplace.next input)).trans hcalls
    exact (hrest after _ hstart hclosed.1 (hplace.next .close)).trans hclosed.2

/-- The vehicle arrives, and `operation` is closed before `OP_IO` gets to it. -/
theorem closed_run_arrival :
    let s := run act {} (started ++ arrival)
    s.calls.Sublist (s.manager.posted.filterMap answer) ∧
      (s.manager.posted.map Queued.number).Nodup ∧
        (run act s [.close, .lifecycle true, .run true, .run true]).calls = s.calls :=
  closed_run (started ++ arrival) [.lifecycle true, .run true, .run true] (by decide +kernel)
    (by decide +kernel)

end LinuxPBS.Event

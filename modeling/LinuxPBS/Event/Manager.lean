import Mathlib.Data.List.Nodup
import Mathlib.Logic.Function.Basic
import LinuxPBS.Library.Machine

/-!
# The event manager

Every device hands its events to the `EventManager`, from a thread of its own, and one event
thread handles them.  The main thread starts and stops the event thread.  All of them share four
things without a lock: the two atomic flags, the counter, and the handlers posted to the
`io_context`; `step` is one access to them.

`FnStopEventThread` is also to drain the queue:

```text
  stopRequested = true      no new events
  workGuard.reset()         run() returns once the queue is empty
  join
  stopRequested = false     events for a later start
```

`delivered_run` says what all this comes to, in every interleaving: the events are handled once
each, in the order they were posted in; the events of one device keep their order; and when a
stop returns everything that was posted before it was called has been handled.  That it does
return is `stop_returns`.

Only the main thread starts and stops the event thread.
-/

namespace LinuxPBS.Event

open Machine

/-! ## The threads -/

/-- An event with its number and the thread it comes from; `eventId` is the number in 64 bits. -/
structure Queued (ε : Type) where
  number : ℕ
  producer : ℕ
  event : ε
  deriving DecidableEq, Repr

/-- A thread in `enqueueEvent`. -/
inductive Producer (ε : Type)
  | idle
  /-- it has found that the manager is not stopping -/
  | checked (event : ε)
  /-- it has drawn a number -/
  | numbered (number : ℕ) (event : ε)
  deriving DecidableEq, Repr

/-- The event thread. -/
inductive EventThread
  /-- there is none, or it has been joined -/
  | absent
  /-- in `ioContext_.run()` -/
  | running
  | left
  /-- `isEventThreadRunning_` has been stored -/
  | lowered
  | finished
  deriving DecidableEq, Repr

/-- The main thread in `FnStartEventThread` or `FnStopEventThread`, before its next access. -/
inductive Caller
  | idle
  | startJoin
  | startClear
  | startRun
  | stopRaise
  | stopRelease
  | stopJoin
  | stopClear
  /-- a stop of a manager that is not running -/
  | onlyJoin
  deriving DecidableEq, Repr

/-- `EventManager`; `posted`, `handled` and `due` are history, `due` is what had been posted when
the last stop of a running manager was called. -/
structure EventManager (ε : Type) where
  isEventThreadRunning : Bool := false
  stopRequested : Bool := false
  workGuard : Bool := false
  nextEventId : ℕ := 1
  /-- the handlers of `ioContext_` -/
  queue : List (Queued ε) := []
  eventThread : EventThread := .absent
  caller : Caller := .idle
  producers : ℕ → Producer ε := fun _ => .idle
  posted : List (Queued ε) := []
  handled : List (Queued ε) := []
  due : List (Queued ε) := []

inductive Input (ε : Type)
  /-- a thread calls `enqueueEvent` and loads `stopRequested_` -/
  | enqueue (producer : ℕ) (event : ε)
  /-- `fetch_add` -/
  | draw (producer : ℕ)
  /-- `post` -/
  | post (producer : ℕ)
  /-- the event thread handles an event, or goes on if it cannot -/
  | event
  /-- the main thread calls `FnStartEventThread` and exchanges the flag -/
  | start
  /-- the main thread calls `FnStopEventThread` and exchanges the flag -/
  | stop
  /-- the main thread goes on; a new thread can be created -/
  | caller (created : Bool)
  deriving DecidableEq, Repr

variable {ε : Type}

namespace EventManager

/-- The next action of the event thread; a handler that throws is caught. -/
def eventStep (manager : EventManager ε) : EventManager ε :=
  match manager.eventThread with
  | .running =>
      match manager.queue with
      | queued :: rest =>
          { manager with queue := rest, handled := manager.handled ++ [queued] }
      | [] => if manager.workGuard then manager else { manager with eventThread := .left }
  | .left => { manager with isEventThreadRunning := false, eventThread := .lowered }
  | .lowered => { manager with stopRequested := false, eventThread := .finished }
  | _ => manager

/-- `join`, which waits for the thread to end. -/
def join (manager : EventManager ε) (next : Caller) : EventManager ε :=
  match manager.eventThread with
  | .absent => { manager with caller := next }
  | .finished => { manager with eventThread := .absent, caller := next }
  | _ => manager

/-- The next access of the main thread. -/
def callerStep (manager : EventManager ε) (created : Bool) : EventManager ε :=
  match manager.caller with
  | .idle => manager
  | .startJoin => manager.join .startClear
  | .startClear => { manager with stopRequested := false, caller := .startRun }
  | .startRun =>
      if created then
        { manager with workGuard := true, eventThread := .running, caller := .idle }
      else { manager with workGuard := false, isEventThreadRunning := false, caller := .idle }
  | .stopRaise => { manager with stopRequested := true, caller := .stopRelease }
  | .stopRelease => { manager with workGuard := false, caller := .stopJoin }
  | .stopJoin => manager.join .stopClear
  | .stopClear => { manager with stopRequested := false, caller := .idle }
  | .onlyJoin => manager.join .idle

end EventManager

open EventManager in
def step (manager : EventManager ε) : Input ε → EventManager ε
  | .enqueue producer event =>
      match manager.producers producer with
      | .idle =>
          if manager.stopRequested then manager
          else
            { manager with
              producers := Function.update manager.producers producer (.checked event) }
      | _ => manager
  | .draw producer =>
      match manager.producers producer with
      | .checked event =>
          { manager with
            nextEventId := manager.nextEventId + 1
            producers := Function.update manager.producers producer
              (.numbered manager.nextEventId event) }
      | _ => manager
  | .post producer =>
      match manager.producers producer with
      | .numbered number event =>
          { manager with
            queue := manager.queue ++ [⟨number, producer, event⟩]
            posted := manager.posted ++ [⟨number, producer, event⟩]
            producers := Function.update manager.producers producer .idle }
      | _ => manager
  | .event => manager.eventStep
  | .start =>
      match manager.caller with
      | .idle =>
          if manager.isEventThreadRunning then manager
          else { manager with isEventThreadRunning := true, caller := .startJoin }
      | _ => manager
  | .stop =>
      match manager.caller with
      | .idle =>
          if manager.isEventThreadRunning then
            { manager with
              isEventThreadRunning := false
              caller := .stopRaise
              due := manager.posted }
          else { manager with caller := .onlyJoin }
      | _ => manager
  | .caller created => manager.callerStep created

variable {manager : EventManager ε}

/-! ## The flags -/

/-- Where the event thread can be, and the flag and the guard with it, when the main thread is
somewhere. -/
def Placed (caller : Caller) (thread : EventThread) (flag guard : Bool) : Prop :=
  match caller with
  | .idle =>
      thread = .running ∧ flag = true ∧ guard = true ∨
        thread = .absent ∧ flag = false ∧ guard = false
  | .startJoin => thread = .absent ∧ flag = true ∧ guard = false
  | .startClear => thread = .absent ∧ flag = true ∧ guard = false
  | .startRun => thread = .absent ∧ flag = true ∧ guard = false
  | .stopRaise => thread = .running ∧ flag = false ∧ guard = true
  | .stopRelease => thread = .running ∧ flag = false ∧ guard = true
  | .stopJoin => thread ≠ .absent ∧ flag = false ∧ guard = false
  | .stopClear => thread = .absent ∧ flag = false ∧ guard = false
  | .onlyJoin => thread = .absent ∧ flag = false ∧ guard = false

namespace EventManager

def InPlace (manager : EventManager ε) : Prop :=
  Placed manager.caller manager.eventThread manager.isEventThreadRunning manager.workGuard

theorem InPlace.eventStep (hplace : manager.InPlace) :
    manager.eventStep.InPlace := by
  obtain ⟨flag, stopping, guard, next, queue, thread, caller, producers, posted, handled, due⟩ :=
    manager
  unfold InPlace at hplace ⊢
  dsimp only at hplace
  cases thread with
  | absent => exact hplace
  | finished => exact hplace
  | running =>
      cases queue with
      | cons queued rest => exact hplace
      | nil =>
          cases guard with
          | true => exact hplace
          | false => cases caller <;> simp_all [EventManager.eventStep, Placed]
  | left => cases caller <;> simp_all [EventManager.eventStep, Placed]
  | lowered => cases caller <;> simp_all [EventManager.eventStep, Placed]

theorem InPlace.callerStep (hplace : manager.InPlace)
    (created : Bool) : (manager.callerStep created).InPlace := by
  obtain ⟨flag, stopping, guard, next, queue, thread, caller, producers, posted, handled, due⟩ :=
    manager
  unfold InPlace at hplace ⊢
  dsimp only at hplace
  cases caller with
  | idle => exact hplace
  | startRun => cases created <;> simp_all [EventManager.callerStep, Placed]
  | stopJoin => cases thread <;> simp_all [EventManager.callerStep, EventManager.join, Placed]
  | _ => simp_all [EventManager.callerStep, EventManager.join, Placed]

end EventManager

theorem inPlace_step (hplace : manager.InPlace) (input : Input ε) :
    (step manager input).InPlace := by
  obtain ⟨flag, stopping, guard, next, queue, thread, caller, producers, posted, handled, due⟩ :=
    manager
  cases input with
  | enqueue producer event =>
      unfold step
      dsimp only
      split
      · split
        · exact hplace
        · exact hplace
      · exact hplace
  | draw producer =>
      unfold step
      dsimp only
      split <;> exact hplace
  | post producer =>
      unfold step
      dsimp only
      split <;> exact hplace
  | event => exact hplace.eventStep
  | start =>
      cases caller with
      | idle =>
          cases flag with
          | true => exact hplace
          | false => simp_all [step, EventManager.InPlace, Placed]
      | _ => exact hplace
  | stop =>
      cases caller with
      | idle => cases flag <;> simp_all [step, EventManager.InPlace, Placed]
      | _ => exact hplace
  | caller created => exact hplace.callerStep created

/-! ## The events -/

namespace EventManager

/-- A stop is under way, and the event thread has still events to handle. -/
def Draining (manager : EventManager ε) : Prop :=
  match manager.caller with
  | .stopRaise => True
  | .stopRelease => True
  | .stopJoin => manager.eventThread = .running
  | _ => False

/-- No event is lost, none is handled twice, and a stop leaves none behind. -/
structure Drained (manager : EventManager ε) : Prop where
  lossless : manager.handled ++ manager.queue = manager.posted
  owed : manager.due <+: manager.posted
  paid : ¬ manager.Draining → manager.due <+: manager.handled

/-- The numbers are all different, and those of one thread increase. -/
structure Numbered (manager : EventManager ε) : Prop where
  below : ∀ queued ∈ manager.posted, queued.number < manager.nextEventId
  nodup : (manager.posted.map Queued.number).Nodup
  ordered : manager.posted.Pairwise fun first second =>
    first.producer = second.producer → first.number < second.number
  drawn : ∀ producer number event, manager.producers producer = .numbered number event →
    number < manager.nextEventId ∧ ∀ queued ∈ manager.posted, queued.number ≠ number ∧
      (queued.producer = producer → queued.number < number)
  apart : ∀ producer other number event number' event', producer ≠ other →
    manager.producers producer = .numbered number event →
    manager.producers other = .numbered number' event' → number ≠ number'

theorem Drained.eventStep (hplace : manager.InPlace)
    (hdrained : manager.Drained) : manager.eventStep.Drained := by
  obtain ⟨flag, stopping, guard, next, queue, thread, caller, producers, posted, handled, due⟩ :=
    manager
  obtain ⟨hlossless, howed, hpaid⟩ := hdrained
  cases thread with
  | absent => exact ⟨hlossless, howed, hpaid⟩
  | finished => exact ⟨hlossless, howed, hpaid⟩
  | running =>
      cases queue with
      | cons queued rest =>
          refine ⟨?_, howed, fun hdraining => ?_⟩
          · exact (List.append_assoc handled [queued] rest).trans hlossless
          · exact (hpaid hdraining).trans (List.prefix_append _ _)
      | nil =>
          cases guard with
          | true => exact ⟨hlossless, howed, hpaid⟩
          | false =>
              -- the queue is empty: everything posted has been handled
              refine ⟨hlossless, howed, fun _ => ?_⟩
              rw [List.append_nil] at hlossless
              exact hlossless ▸ howed
  | left =>
      refine ⟨hlossless, howed, fun _ => hpaid fun hdraining => ?_⟩
      cases caller <;> simp_all [InPlace, Placed, Draining]
  | lowered =>
      refine ⟨hlossless, howed, fun _ => hpaid fun hdraining => ?_⟩
      cases caller <;> simp_all [InPlace, Placed, Draining]

theorem Drained.callerStep (hplace : manager.InPlace)
    (hdrained : manager.Drained) (created : Bool) : (manager.callerStep created).Drained := by
  obtain ⟨flag, stopping, guard, next, queue, thread, caller, producers, posted, handled, due⟩ :=
    manager
  obtain ⟨hlossless, howed, hpaid⟩ := hdrained
  cases caller with
  | idle => exact ⟨hlossless, howed, hpaid⟩
  | startJoin =>
      cases thread <;> exact ⟨hlossless, howed, fun _ => hpaid id⟩
  | startClear => exact ⟨hlossless, howed, fun _ => hpaid id⟩
  | startRun => cases created <;> exact ⟨hlossless, howed, fun _ => hpaid id⟩
  | stopRaise => exact ⟨hlossless, howed, fun hdraining => absurd trivial hdraining⟩
  | stopRelease =>
      refine ⟨hlossless, howed, fun hdraining => absurd ?_ hdraining⟩
      exact hplace.1
  | stopJoin =>
      cases thread with
      | absent => exact absurd rfl hplace.1
      | running => exact ⟨hlossless, howed, hpaid⟩
      | left => exact ⟨hlossless, howed, hpaid⟩
      | lowered => exact ⟨hlossless, howed, hpaid⟩
      | finished =>
          refine ⟨hlossless, howed, fun _ => hpaid fun hdraining => ?_⟩
          exact EventThread.noConfusion hdraining
  | stopClear => exact ⟨hlossless, howed, fun _ => hpaid id⟩
  | onlyJoin => cases thread <;> exact ⟨hlossless, howed, fun _ => hpaid id⟩

end EventManager

theorem drained_step (hplace : manager.InPlace)
    (hdrained : manager.Drained) (input : Input ε) : (step manager input).Drained := by
  cases input with
  | enqueue producer event =>
      unfold step
      dsimp only
      split
      · split
        · exact hdrained
        · exact ⟨hdrained.lossless, hdrained.owed, hdrained.paid⟩
      · exact hdrained
  | draw producer =>
      unfold step
      dsimp only
      split
      · exact ⟨hdrained.lossless, hdrained.owed, hdrained.paid⟩
      · exact hdrained
  | post producer =>
      unfold step
      dsimp only
      split
      · refine ⟨?_, hdrained.owed.trans (List.prefix_append _ _), hdrained.paid⟩
        rw [← List.append_assoc, hdrained.lossless]
      · exact hdrained
  | event => exact hdrained.eventStep hplace
  | start =>
      obtain ⟨flag, stopping, guard, next, queue, thread, caller, producers, posted, handled,
        due⟩ := manager
      obtain ⟨hlossless, howed, hpaid⟩ := hdrained
      cases caller with
      | idle =>
          cases flag with
          | true => exact ⟨hlossless, howed, hpaid⟩
          | false => exact ⟨hlossless, howed, fun _ => hpaid id⟩
      | _ => exact ⟨hlossless, howed, hpaid⟩
  | stop =>
      obtain ⟨flag, stopping, guard, next, queue, thread, caller, producers, posted, handled,
        due⟩ := manager
      obtain ⟨hlossless, howed, hpaid⟩ := hdrained
      cases caller with
      | idle =>
          cases flag with
          | true => exact ⟨hlossless, List.prefix_rfl, fun hdraining => absurd trivial hdraining⟩
          | false => exact ⟨hlossless, howed, fun _ => hpaid id⟩
      | _ => exact ⟨hlossless, howed, hpaid⟩
  | caller created => exact hdrained.callerStep hplace created

/-- What `Numbered` is about. -/
theorem EventManager.Numbered.same {after : EventManager ε} (hnumbered : manager.Numbered)
    (hnext : after.nextEventId = manager.nextEventId) (hposted : after.posted = manager.posted)
    (hproducers : after.producers = manager.producers) : after.Numbered := by
  obtain ⟨hbelow, hnodup, hordered, hdrawn, hapart⟩ := hnumbered
  refine ⟨?_, ?_, ?_, ?_, ?_⟩
  · rwa [hnext, hposted]
  · rwa [hposted]
  · rwa [hposted]
  · rwa [hnext, hposted, hproducers]
  · rwa [hproducers]

theorem EventManager.join_same (manager : EventManager ε) (next : Caller) :
    (manager.join next).nextEventId = manager.nextEventId ∧
      (manager.join next).posted = manager.posted ∧
      (manager.join next).producers = manager.producers := by
  unfold EventManager.join
  split <;> exact ⟨rfl, rfl, rfl⟩

theorem EventManager.callerStep_same (manager : EventManager ε) (created : Bool) :
    (manager.callerStep created).nextEventId = manager.nextEventId ∧
      (manager.callerStep created).posted = manager.posted ∧
      (manager.callerStep created).producers = manager.producers := by
  unfold EventManager.callerStep
  split
  · exact ⟨rfl, rfl, rfl⟩
  · exact manager.join_same _
  · exact ⟨rfl, rfl, rfl⟩
  · split <;> exact ⟨rfl, rfl, rfl⟩
  · exact ⟨rfl, rfl, rfl⟩
  · exact ⟨rfl, rfl, rfl⟩
  · exact manager.join_same _
  · exact ⟨rfl, rfl, rfl⟩
  · exact manager.join_same _

theorem EventManager.eventStep_same (manager : EventManager ε) :
    manager.eventStep.nextEventId = manager.nextEventId ∧
      manager.eventStep.posted = manager.posted ∧
      manager.eventStep.producers = manager.producers := by
  unfold EventManager.eventStep
  split
  · split
    · exact ⟨rfl, rfl, rfl⟩
    · split <;> exact ⟨rfl, rfl, rfl⟩
  · exact ⟨rfl, rfl, rfl⟩
  · exact ⟨rfl, rfl, rfl⟩
  · exact ⟨rfl, rfl, rfl⟩

/-- A thread that has no number after a step does not count. -/
theorem numbered_of_update {producers : ℕ → Producer ε} {producer other : ℕ} {now : Producer ε}
    (hnow : ∀ number event, now ≠ .numbered number event) {number : ℕ} {event : ε}
    (hother : Function.update producers producer now other = .numbered number event) :
    other ≠ producer ∧ producers other = .numbered number event := by
  by_cases hsame : other = producer
  · rw [hsame, Function.update_self] at hother
    exact absurd hother (hnow number event)
  · rw [Function.update_of_ne hsame] at hother
    exact ⟨hsame, hother⟩

theorem numbered_step (hnumbered : manager.Numbered)
    (input : Input ε) : (step manager input).Numbered := by
  have hkept := hnumbered
  obtain ⟨hbelow, hnodup, hordered, hdrawn, hapart⟩ := hnumbered
  cases input with
  | enqueue producer event =>
      unfold step
      dsimp only
      split
      · split
        · exact hkept
        · refine ⟨hbelow, hnodup, hordered, fun other number event' hother => ?_,
            fun first second number event' number' event'' hne hfirst hsecond => ?_⟩
          · have hbefore := numbered_of_update (by intro _ _ heq; cases heq) hother
            exact hdrawn other number event' hbefore.2
          · have hfirst' := numbered_of_update (by intro _ _ heq; cases heq) hfirst
            have hsecond' := numbered_of_update (by intro _ _ heq; cases heq) hsecond
            exact hapart first second number event' number' event'' hne hfirst'.2 hsecond'.2
      · exact hkept
  | draw producer =>
      unfold step
      dsimp only
      split
      · next event hchecked =>
          have hlater : ∀ other number event', manager.producers other = .numbered number event' →
              number < manager.nextEventId := fun other number event' hother =>
            (hdrawn other number event' hother).1
          refine ⟨fun queued hmem => Nat.lt_succ_of_lt (hbelow queued hmem), hnodup, hordered,
            fun other number event' hother => ?_,
            fun first second number event' number' event'' hne hfirst hsecond => ?_⟩
          · dsimp only at hother
            by_cases hself : other = producer
            · rw [hself, Function.update_self] at hother
              obtain ⟨rfl, rfl⟩ := Producer.numbered.inj hother
              exact ⟨Nat.lt_succ_self _, fun queued hmem =>
                ⟨Nat.ne_of_lt (hbelow queued hmem), fun _ => hbelow queued hmem⟩⟩
            · rw [Function.update_of_ne hself] at hother
              obtain ⟨hlt, hothers⟩ := hdrawn other number event' hother
              exact ⟨Nat.lt_succ_of_lt hlt, hothers⟩
          · dsimp only at hfirst hsecond
            by_cases hself : first = producer
            · have hsecondNe : second ≠ producer := fun heq => hne (hself.trans heq.symm)
              rw [hself, Function.update_self] at hfirst
              rw [Function.update_of_ne hsecondNe] at hsecond
              obtain ⟨rfl, rfl⟩ := Producer.numbered.inj hfirst
              exact Nat.ne_of_gt (hlater second number' event'' hsecond)
            · rw [Function.update_of_ne hself] at hfirst
              by_cases hself' : second = producer
              · rw [hself', Function.update_self] at hsecond
                obtain ⟨rfl, rfl⟩ := Producer.numbered.inj hsecond
                exact Nat.ne_of_lt (hlater first number event' hfirst)
              · rw [Function.update_of_ne hself'] at hsecond
                exact hapart first second number event' number' event'' hne hfirst hsecond
      · exact hkept
  | post producer =>
      unfold step
      dsimp only
      split
      · next number event hown =>
          obtain ⟨hlt, hothers⟩ := hdrawn producer number event hown
          refine ⟨fun queued hmem => ?_, ?_, ?_, fun other number' event' hother => ?_,
            fun first second number' event' number'' event'' hne hfirst hsecond => ?_⟩
          · rcases List.mem_append.mp hmem with hold | hnew
            · exact hbelow queued hold
            · rw [List.mem_singleton.mp hnew]
              exact hlt
          · rw [List.map_append]
            refine hnodup.append (List.nodup_singleton _) fun other hold hnew => ?_
            obtain ⟨queued, hmem, rfl⟩ := List.mem_map.mp hold
            exact (hothers queued hmem).1 (List.mem_singleton.mp hnew)
          · refine List.pairwise_append.mpr ⟨hordered, List.pairwise_singleton _ _, ?_⟩
            intro queued hold last hlast hsame
            rw [List.mem_singleton.mp hlast] at hsame ⊢
            exact (hothers queued hold).2 hsame
          · obtain ⟨hne, hbefore⟩ := numbered_of_update (by intro _ _ heq; cases heq) hother
            obtain ⟨hlt', hothers'⟩ := hdrawn other number' event' hbefore
            refine ⟨hlt', fun queued hmem => ?_⟩
            rcases List.mem_append.mp hmem with hold | hnew
            · exact hothers' queued hold
            · rw [List.mem_singleton.mp hnew]
              exact ⟨hapart producer other number event number' event' hne.symm hown hbefore,
                fun hsame => absurd hsame.symm hne⟩
          · have hfirst' := numbered_of_update (by intro _ _ heq; cases heq) hfirst
            have hsecond' := numbered_of_update (by intro _ _ heq; cases heq) hsecond
            exact hapart first second number' event' number'' event'' hne hfirst'.2 hsecond'.2
      · exact hkept
  | event =>
      obtain ⟨hnext, hposted, hproducers⟩ := manager.eventStep_same
      exact hkept.same hnext hposted hproducers
  | start =>
      unfold step
      dsimp only
      split
      · split <;> exact hkept.same rfl rfl rfl
      · exact hkept
  | stop =>
      unfold step
      dsimp only
      split
      · split <;> exact hkept.same rfl rfl rfl
      · exact hkept
  | caller created =>
      obtain ⟨hnext, hposted, hproducers⟩ := manager.callerStep_same created
      exact hkept.same hnext hposted hproducers

/-! ## Every interleaving -/

/-- What every interleaving keeps. -/
structure EventManager.Kept (manager : EventManager ε) : Prop where
  inPlace : manager.InPlace
  drained : manager.Drained
  numbered : manager.Numbered

theorem kept_run (inputs : List (Input ε)) : (run step ({} : EventManager ε) inputs).Kept := by
  refine @run_keeps _ _ step EventManager.Kept (fun manager input hkept => ?_) {} ?_ inputs
  · exact ⟨inPlace_step hkept.inPlace input, drained_step hkept.inPlace hkept.drained input,
      numbered_step hkept.numbered input⟩
  · refine ⟨Or.inr ⟨rfl, rfl, rfl⟩, ⟨rfl, List.nil_prefix, fun _ => List.nil_prefix⟩, ?_⟩
    exact ⟨fun _ hmem => by (cases hmem), List.nodup_nil, List.Pairwise.nil,
      fun _ _ _ hnone => by (cases hnone), fun _ _ _ _ _ _ _ hnone => by (cases hnone)⟩

/-- In every interleaving: what has been posted has been handled or waits, in its order; no event
is there twice; the events of one device are in the order in which it called; while the main
thread is not in a call the flag says whether there is an event thread; and once a stop has
returned everything that had been posted before it has been handled. -/
theorem delivered_run (inputs : List (Input ε)) :
    let manager := run step ({} : EventManager ε) inputs
    manager.handled ++ manager.queue = manager.posted ∧
      (manager.posted.map Queued.number).Nodup ∧
      (manager.posted.Pairwise fun first second =>
        first.producer = second.producer → first.number < second.number) ∧
      (manager.caller = .idle →
        (manager.isEventThreadRunning = true ↔ manager.eventThread = .running) ∧
          manager.due <+: manager.handled) := by
  intro manager
  obtain ⟨hplace, hdrained, hnumbered⟩ := kept_run inputs
  refine ⟨hdrained.lossless, hnumbered.nodup, hnumbered.ordered, fun hidle => ⟨?_, ?_⟩⟩
  · have hplaced : Placed .idle manager.eventThread manager.isEventThreadRunning
        manager.workGuard := hidle ▸ hplace
    rcases hplaced with ⟨hthread, hflag, -⟩ | ⟨hthread, hflag, -⟩
    · exact iff_of_true hflag hthread
    · rw [hthread, hflag]
      exact iff_of_false Bool.false_ne_true fun heq => EventThread.noConfusion heq
  · refine hdrained.paid fun hdraining => ?_
    have hnot : (match manager.caller with
        | .stopRaise => True
        | .stopRelease => True
        | .stopJoin => manager.eventThread = .running
        | _ => False) := hdraining
    rw [hidle] at hnot
    exact hnot

/-! ## A stop returns -/

/-- The event thread alone comes to its end when the guard is gone. -/
theorem finish_run (hthread : manager.eventThread ≠ .absent)
    (hguard : manager.workGuard = false) :
    let after := run step manager (List.replicate (manager.queue.length + 3) .event)
    after.eventThread = .finished ∧ after.caller = manager.caller := by
  obtain ⟨flag, stopping, guard, next, queue, thread, caller, producers, posted, handled, due⟩ :=
    manager
  dsimp only at hthread hguard ⊢
  subst hguard
  have hrest : ∀ (count : ℕ) (manager : EventManager ε), manager.eventThread = .finished →
      run step manager (List.replicate count .event) = manager := by
    intro count manager hfinished
    induction count with
    | zero => rfl
    | succ count ih =>
        have hstep : step manager .event = manager := by
          simp only [step, EventManager.eventStep, hfinished]
        rw [List.replicate_succ, run_cons, hstep, ih]
  cases thread with
  | absent => exact absurd rfl hthread
  | finished =>
      rw [hrest _ _ rfl]
      exact ⟨rfl, rfl⟩
  | lowered =>
      rw [List.replicate_succ, run_cons, hrest _ _ rfl]
      exact ⟨rfl, rfl⟩
  | left =>
      rw [List.replicate_succ, List.replicate_succ, run_cons, run_cons, hrest _ _ rfl]
      exact ⟨rfl, rfl⟩
  | running =>
      induction queue generalizing handled with
      | nil => exact ⟨rfl, rfl⟩
      | cons queued rest ih => exact ih (handled ++ [queued])

/-- A manager that has come to its end stays there. -/
theorem ended_run (hcaller : manager.caller = .idle)
    (hthread : manager.eventThread = .absent) (count : ℕ) :
    run step manager (List.replicate count .event ++ [.caller true, .caller true]) = manager := by
  have hevent : step manager .event = manager := by
    simp only [step, EventManager.eventStep, hthread]
  have hcall : step manager (.caller true) = manager := by
    simp only [step, EventManager.callerStep, hcaller]
  induction count with
  | zero =>
      rw [List.replicate_zero, List.nil_append, run_cons, hcall, run_cons, hcall]
      rfl
  | succ count ih => rw [List.replicate_succ, List.cons_append, run_cons, hevent, ih]

/-- The join of a stop, with what comes before and after it. -/
theorem join_run (hcaller : manager.caller = .stopJoin)
    (hthread : manager.eventThread ≠ .absent) (hguard : manager.workGuard = false) :
    let after := run step manager
      (List.replicate (manager.queue.length + 3) .event ++ [.caller true, .caller true])
    after.caller = .idle ∧ after.eventThread = .absent := by
  obtain ⟨hfinished, hsame⟩ := finish_run hthread hguard
  rw [run_append]
  generalize run step manager (List.replicate (manager.queue.length + 3) .event) = ended at *
  rw [hcaller] at hsame
  have hjoin : step ended (.caller true) =
      { ended with eventThread := .absent, caller := .stopClear } := by
    simp only [step, EventManager.callerStep, hsame, EventManager.join, hfinished]
  rw [run_cons, hjoin]
  exact ⟨rfl, rfl⟩

/-- What the main thread and the event thread still have to do for a stop. -/
def closing (waiting : ℕ) : List (Input ε) :=
  [.caller true, .caller true] ++
    (List.replicate (waiting + 3) .event ++ [.caller true, .caller true])

theorem closing_run (hplace : manager.InPlace)
    (hstopping : manager.caller ∈ [Caller.stopRaise, .stopRelease, .stopJoin, .stopClear]) :
    let after := run step manager (closing manager.queue.length)
    after.caller = .idle ∧ after.eventThread = .absent := by
  have hplaced : Placed manager.caller manager.eventThread manager.isEventThreadRunning
      manager.workGuard := hplace
  intro after
  have hsplit : after = run step (step (step manager (.caller true)) (.caller true))
      (List.replicate (manager.queue.length + 3) .event ++ [.caller true, .caller true]) := rfl
  rw [hsplit]
  simp only [List.mem_cons, List.not_mem_nil, or_false] at hstopping
  rcases hstopping with hcaller | hcaller | hcaller | hcaller
  · rw [hcaller] at hplaced
    have hjoining : step (step manager (.caller true)) (.caller true) =
        { manager with stopRequested := true, workGuard := false, caller := .stopJoin } := by
      simp only [step, EventManager.callerStep, hcaller]
    rw [hjoining]
    refine join_run rfl ?_ rfl
    rw [hplaced.1]
    exact fun heq => EventThread.noConfusion heq
  · rw [hcaller] at hplaced
    have hjoining : step (step manager (.caller true)) (.caller true) =
        { manager with workGuard := false, caller := .stopJoin } := by
      simp only [step, EventManager.callerStep, hcaller, EventManager.join, hplaced.1]
    rw [hjoining]
    refine join_run rfl ?_ rfl
    rw [hplaced.1]
    exact fun heq => EventThread.noConfusion heq
  · rw [hcaller] at hplaced
    by_cases hfinished : manager.eventThread = .finished
    · have hended : step (step manager (.caller true)) (.caller true) =
          { manager with stopRequested := false, eventThread := .absent, caller := .idle } := by
        simp only [step, EventManager.callerStep, hcaller, EventManager.join, hfinished]
      rw [hended, ended_run rfl rfl]
      exact ⟨rfl, rfl⟩
    · have hwaits : step manager (.caller true) = manager := by
        obtain ⟨hthread, -, -⟩ := hplaced
        cases hwhere : manager.eventThread <;>
          simp_all [step, EventManager.callerStep, EventManager.join]
      rw [hwaits, hwaits]
      exact join_run hcaller hplaced.1 hplaced.2.2
  · rw [hcaller] at hplaced
    have hended : step (step manager (.caller true)) (.caller true) =
        { manager with stopRequested := false, caller := .idle } := by
      simp only [step, EventManager.callerStep, hcaller]
    rw [hended, ended_run]
    · exact ⟨rfl, hplaced.1⟩
    · rfl
    · exact hplaced.1

/-- From every state in which a stop is under way the main thread and the event thread bring it to
its end on their own. -/
theorem stop_returns (inputs : List (Input ε)) :
    let manager := run step ({} : EventManager ε) inputs
    manager.caller ∈ [Caller.stopRaise, .stopRelease, .stopJoin, .stopClear] →
      let after := run step manager (closing manager.queue.length)
      after.caller = .idle ∧ after.eventThread = .absent :=
  closing_run (kept_run inputs).inPlace

/-- Two devices and a stop; the second event is numbered before the stop and posted during it. -/
theorem stop_returns_devices :
    let inputs : List (Input String) := [.start, .caller true, .caller true, .caller true,
      .enqueue 0 "Evt_handleDIOEvent", .draw 0, .enqueue 1 "Evt_AntennaIUCome", .draw 1, .post 0,
      .stop, .caller true, .enqueue 0 "Evt_handleDIOEvent", .post 1, .caller true, .event]
    let manager := run step ({} : EventManager String) inputs
    let after := run step manager (closing manager.queue.length)
    after.caller = .idle ∧ after.eventThread = .absent :=
  stop_returns _ (by decide)

end LinuxPBS.Event

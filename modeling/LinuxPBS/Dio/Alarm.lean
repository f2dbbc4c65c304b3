import LinuxPBS.Dio.Loops

/-!
# The other inputs, and the barrier that stays open

Nine inputs besides the loops have a pair of events of their own.  As long as the readings of
an input do not fail, its events are the changes of its readings, in their order
(`events_run`).

The input of the barrier also starts a clock.  A barrier that is still up after
`iBarrierOpenTooLongTime_` seconds raises an alarm, once for each opening, and the alarm is taken
back when the barrier comes down.  `Watch` is a keeper of the barrier with these three states and
nothing else; `alarm_run` says that the monitoring raises the events of the keeper, in every run
in which the readings of the barrier do not fail.
-/

namespace LinuxPBS.Dio

open Machine

/-! ## The events of an input -/

/-- The inputs with events of their own. -/
inductive Pin
  | loopC
  | intercom
  | stationDoorOpen
  | barrierDoorOpen
  | barrierStatus
  | manualOpenBarrier
  | lorrySensor
  | armBroken
  | printReceipt
  deriving DecidableEq, Repr

namespace Pin

def value {α : Type} : Pin → Inputs α → α
  | loopC, inputs => inputs.loopC
  | intercom, inputs => inputs.intercom
  | stationDoorOpen, inputs => inputs.stationDoorOpen
  | barrierDoorOpen, inputs => inputs.barrierDoorOpen
  | barrierStatus, inputs => inputs.barrierStatus
  | manualOpenBarrier, inputs => inputs.manualOpenBarrier
  | lorrySensor, inputs => inputs.lorrySensor
  | armBroken, inputs => inputs.armBroken
  | printReceipt, inputs => inputs.printReceipt

/-- The event of a rising edge. -/
def on : Pin → DioEvent
  | loopC => .loopCOn
  | intercom => .intercomOn
  | stationDoorOpen => .stationDoorOpen
  | barrierDoorOpen => .barrierDoorOpen
  | barrierStatus => .barrierStatusOn
  | manualOpenBarrier => .manualOpenBarriedOn
  | lorrySensor => .lorrySensorOn
  | armBroken => .armBrokenOn
  | printReceipt => .printReceiptOn

/-- The event of a falling edge. -/
def off : Pin → DioEvent
  | loopC => .loopCOff
  | intercom => .intercomOff
  | stationDoorOpen => .stationDoorClose
  | barrierDoorOpen => .barrierDoorClose
  | barrierStatus => .barrierStatusOff
  | manualOpenBarrier => .manualOpenBarriedOff
  | lorrySensor => .lorrySensorOff
  | armBroken => .armBrokenOff
  | printReceipt => .printReceiptOff

/-- Whether an effect is an event of the input, and which. -/
def event? (pin : Pin) : Effect → Option Bool
  | .event event =>
      if event = pin.on then some true else if event = pin.off then some false else none
  | _ => none

def events (pin : Pin) (effects : List Effect) : List Bool := effects.filterMap pin.event?

end Pin

/-- The edge between two readings. -/
def edge (last current : Reading) : List Bool :=
  if rises last current then [true] else if falls last current then [false] else []

@[simp] theorem events_append (pin : Pin) (first second : List Effect) :
    pin.events (first ++ second) = pin.events first ++ pin.events second :=
  List.filterMap_append

/-- What a poll does about one of these inputs. -/
def inputEdges (dio : DIO) (current : Inputs Reading) (pin : Pin) : List Effect :=
  edges (pin.value dio.lastVal) (pin.value current) (pin.value dio.pins) [.event pin.on]
    [.event pin.off]

/-- The alarm is taken back at this poll. -/
def alarmCleared (dio : DIO) (current : Inputs Reading) : Bool :=
  falls dio.lastVal.barrierStatus current.barrierStatus && dio.bIsBarrierOpenTooLongTime

/-- Since when the barrier is up, after the edges of this poll. -/
def openSince (dio : DIO) (current : Inputs Reading) (opened : ℤ) : Option ℤ :=
  if rises dio.lastVal.barrierStatus current.barrierStatus then some opened
  else if falls dio.lastVal.barrierStatus current.barrierStatus then none
  else dio.barrierOpenSince

/-- The alarm is raised at this poll. -/
def alarmRaised (dio : DIO) (current : Inputs Reading) (opened now : ℤ) : Bool :=
  decide (dio.iBarrierOpenTooLongTime > 0) && (openSince dio current opened).any fun since =>
    decide ((now - since).tdiv 1000000000 > dio.iBarrierOpenTooLongTime)

/-- The effects of a poll, input by input. -/
theorem effects_eq (dio : DIO) (current : Inputs Reading) (opened now : ℤ) :
    (processDIOChanges dio current opened now).2 =
      loopEffects dio.lastVal.loopA dio.lastVal.loopB current.loopA current.loopB ++
        (edges dio.lastVal.loopA current.loopA dio.pins.loopA [] [] ++
          edges dio.lastVal.loopB current.loopB dio.pins.loopB [] [] ++
          inputEdges dio current .loopC ++ inputEdges dio current .intercom ++
          inputEdges dio current .stationDoorOpen ++ inputEdges dio current .barrierDoorOpen ++
          inputEdges dio current .barrierStatus ++
          (if alarmCleared dio current then [.event .barrierOpenTooLongOff] else []) ++
          inputEdges dio current .manualOpenBarrier ++ inputEdges dio current .lorrySensor ++
          inputEdges dio current .armBroken ++ inputEdges dio current .printReceipt ++
          (if alarmRaised dio current opened now then [.event .barrierOpenTooLongOn] else [])) :=
  rfl

theorem events_inputEdges (dio : DIO) (current : Inputs Reading) (pin other : Pin) :
    pin.events (inputEdges dio current other) =
      if other = pin then edge (pin.value dio.lastVal) (pin.value current) else [] := by
  have hone : ∀ pin other : Pin, pin.events [.event other.on] =
        (if other = pin then [true] else []) ∧
      pin.events [.event other.off] = if other = pin then [false] else [] := by
    intro pin other
    cases pin <;> cases other <;> decide
  obtain ⟨hon, hoff⟩ := hone pin other
  have hstatus : ∀ value, pin.events [.inputStatus (other.value dio.pins) value] = [] :=
    fun _ => rfl
  unfold inputEdges edges edge
  by_cases hrise : rises (other.value dio.lastVal) (other.value current) = true
  · rw [if_pos hrise, events_append, hon, hstatus, List.append_nil]
    split
    · next hsame => rw [← hsame, if_pos hrise]
    · rfl
  · by_cases hfall : falls (other.value dio.lastVal) (other.value current) = true
    · rw [if_neg hrise, if_pos hfall, events_append, hoff, hstatus, List.append_nil]
      split
      · next hsame => rw [← hsame, if_neg hrise, if_pos hfall]
      · rfl
    · rw [if_neg hrise, if_neg hfall]
      split
      · next hsame => rw [← hsame, if_neg hrise, if_neg hfall]; rfl
      · rfl

/-- What is not about the loops finds nothing there. -/
theorem filterMap_loops {β : Type} {read : Effect → Option β} (dio : DIO)
    (current : Inputs Reading)
    (hpresence : ∀ before after, (presenceEffects before after).filterMap read = [])
    (hstatus : ∀ pinNum value, read (.inputStatus pinNum value) = none) :
    (loopEffects dio.lastVal.loopA dio.lastVal.loopB current.loopA current.loopB).filterMap read =
        [] ∧
      (edges dio.lastVal.loopA current.loopA dio.pins.loopA [] []).filterMap read = [] ∧
      (edges dio.lastVal.loopB current.loopB dio.pins.loopB [] []).filterMap read = [] := by
  have hloop (last current : Reading) (pinNum : ℤ) :
      (edges last current pinNum [] []).filterMap read = [] := by
    unfold edges
    split
    · exact List.filterMap_cons_none (hstatus _ _)
    · split
      · exact List.filterMap_cons_none (hstatus _ _)
      · rfl
  refine ⟨?_, hloop _ _ _, hloop _ _ _⟩
  rw [loopEffects_eq]
  split
  · exact hpresence _ _
  · rfl

/-- The alarm has no part in these events. -/
theorem events_alarm (pin : Pin) (condition : Bool) :
    pin.events (if condition then [.event .barrierOpenTooLongOff] else []) = [] ∧
      pin.events (if condition then [.event .barrierOpenTooLongOn] else []) = [] := by
  cases pin <;> cases condition <;> decide

/-- A poll raises the event of an edge, for every input. -/
theorem events_processDIOChanges (pin : Pin) (dio : DIO) (current : Inputs Reading)
    (opened now : ℤ) :
    pin.events (processDIOChanges dio current opened now).2 =
      edge (pin.value dio.lastVal) (pin.value current) := by
  obtain ⟨hloops, hloopA, hloopB⟩ := @filterMap_loops _ pin.event? dio current
    (by cases pin <;> decide) fun _ _ => rfl
  rw [← Pin.events] at hloops hloopA hloopB
  rw [effects_eq]
  simp only [events_append, hloops, hloopA, hloopB, events_inputEdges, (events_alarm pin _).1,
    (events_alarm pin _).2]
  cases pin <;> simp

/-! ## The changes of the readings -/

/-- The changes in a list of readings, after one that was high or not. -/
def changes : Bool → List Reading → List Bool
  | _, [] => []
  | before, reading :: rest =>
      if lastValid before reading = before then changes before rest
      else lastValid before reading :: changes (lastValid before reading) rest

/-- What a poll reads: the pins, and the clock twice. -/
structure Poll where
  current : Inputs Reading
  opened : ℤ
  now : ℤ
  deriving DecidableEq, Repr

/-- The polls of a run. -/
def polled : State → List Input → List Poll
  | _, [] => []
  | state, input :: rest =>
      match input with
      | .turn current opened now =>
          if state.polls then ⟨current, opened, now⟩ :: polled (step state input) rest
          else polled (step state input) rest
      | _ => polled (step state input) rest

theorem edge_eq {last current : Reading} (hlast : last.valid = true)
    (hcurrent : current.valid = true) {before : Bool} (hbefore : lastValid false last = before) :
    edge last current =
      if lastValid before current = before then [] else [lastValid before current] := by
  subst hbefore
  cases last <;> cases current <;> first | rfl | cases hlast

/-- Every input of `step` but a poll leaves the readings, the clock and the effects alone. -/
theorem step_of_not_polls {state : State} {input : Input}
    (hpolls : ∀ current opened now, input = .turn current opened now → state.polls = false) :
    (step state input).dio.lastVal = state.dio.lastVal ∧
      (step state input).dio.iBarrierOpenTooLongTime = state.dio.iBarrierOpenTooLongTime ∧
      (step state input).dio.bIsBarrierOpenTooLongTime = state.dio.bIsBarrierOpenTooLongTime ∧
      (step state input).dio.barrierOpenSince = state.dio.barrierOpenSince ∧
      (step state input).effects = state.effects := by
  cases input with
  | start =>
      have hstart : ∃ enabled active coroutine, startMonitoringOnIOThread state.dio =
          { state.dio with
            monitoringEnabled := enabled
            monitoringCoroutineActive := active
            coroutine := coroutine } := by
        unfold startMonitoringOnIOThread
        split
        · exact ⟨_, _, _, rfl⟩
        · split <;> exact ⟨_, _, _, rfl⟩
      obtain ⟨_, _, _, hstart⟩ := hstart
      unfold step
      dsimp only
      rw [hstart]
      exact ⟨rfl, rfl, rfl, rfl, rfl⟩
  | turn current opened now =>
      have hoff := hpolls current opened now rfl
      unfold step
      dsimp only
      rw [if_neg (ne_of_eq_of_ne hoff Bool.false_ne_true)]
      exact ⟨rfl, rfl, rfl, rfl, rfl⟩
  | stop => exact ⟨rfl, rfl, rfl, rfl, rfl⟩
  | shutdown => exact ⟨rfl, rfl, rfl, rfl, rfl⟩
  | timerError => exact ⟨rfl, rfl, rfl, rfl, rfl⟩
  | completed => exact ⟨rfl, rfl, rfl, rfl, rfl⟩

/-- A run, poll by poll: what holds of the polls that are still to come and the state they end
in holds of a run, if it holds of the empty one, if the inputs that do not poll keep it, and if
a poll adds what it should. -/
theorem polled_induction {motive : State → List Input → List Poll → Prop}
    (nil : ∀ state, motive state [] [])
    (idle : ∀ state input rest, (∀ current opened now, input = .turn current opened now →
      state.polls = false) → motive (step state input) rest (polled (step state input) rest) →
      motive state (input :: rest) (polled (step state input) rest))
    (poll : ∀ state current opened now rest, step state (.turn current opened now) =
        poll state current opened now →
      motive (poll state current opened now) rest
        (polled (poll state current opened now) rest) →
      motive state (.turn current opened now :: rest)
        (⟨current, opened, now⟩ :: polled (poll state current opened now) rest))
    (state : State) (inputs : List Input) : motive state inputs (polled state inputs) := by
  induction inputs generalizing state with
  | nil => exact nil state
  | cons input rest ih =>
      have hidle (hoff : ∀ current opened now, input = .turn current opened now →
          state.polls = false) (hpolled : polled state (input :: rest) =
          polled (step state input) rest) : motive state (input :: rest)
          (polled state (input :: rest)) := by
        rw [hpolled]
        exact idle state input rest hoff (ih _)
      cases input with
      | turn current opened now =>
          by_cases hpolls : state.polls = true
          · have hstep : step state (.turn current opened now) =
                LinuxPBS.Dio.poll state current opened now := by
              simp only [step, hpolls, if_true]
            have hpolled : polled state (.turn current opened now :: rest) =
                ⟨current, opened, now⟩ ::
                  polled (LinuxPBS.Dio.poll state current opened now) rest := by
              rw [polled, hstep]
              exact if_pos hpolls
            rw [hpolled]
            exact poll state current opened now rest hstep (ih _)
          · refine hidle (fun _ _ _ _ => eq_false_of_ne_true hpolls) ?_
            rw [polled]
            exact if_neg hpolls
      | _ => exact hidle (by intro _ _ _ hturn; cases hturn) rfl

theorem events_poll (pin : Pin) (state : State) (current : Inputs Reading) (opened now : ℤ) :
    pin.events (poll state current opened now).effects =
      pin.events state.effects ++ edge (pin.value state.dio.lastVal) (pin.value current) := by
  rw [← events_processDIOChanges pin state.dio current opened now, ← events_append]
  rfl

/-- The readings of a pin do not fail. -/
def Valid (pin : Pin) (polls : List Poll) : Prop :=
  ∀ poll ∈ polls, (pin.value poll.current).valid = true

instance (pin : Pin) (polls : List Poll) : Decidable (Valid pin polls) :=
  inferInstanceAs (Decidable (∀ poll ∈ polls, (pin.value poll.current).valid = true))

theorem events_from (pin : Pin) (state : State) (inputs : List Input)
    (hlast : (pin.value state.dio.lastVal).valid = true)
    (hvalid : Valid pin (polled state inputs)) :
    pin.events (run step state inputs).effects = pin.events state.effects ++
      changes (lastValid false (pin.value state.dio.lastVal))
        ((polled state inputs).map fun poll => pin.value poll.current) := by
  revert hlast hvalid
  refine @polled_induction (fun state inputs polls => (pin.value state.dio.lastVal).valid = true →
    Valid pin polls → pin.events (run step state inputs).effects = pin.events state.effects ++
      changes (lastValid false (pin.value state.dio.lastVal))
        (polls.map fun poll => pin.value poll.current)) ?_ ?_ ?_ state inputs
  · intro state _ _
    exact (List.append_nil _).symm
  · intro state input rest hoff ih hlast hvalid
    obtain ⟨hsame, -, -, -, heffects⟩ := step_of_not_polls hoff
    rw [hsame, heffects] at ih
    exact ih hlast hvalid
  · intro state current opened now rest hstep ih hlast hvalid
    have hcurrent : (pin.value current).valid = true := hvalid _ List.mem_cons_self
    have hrest := ih hcurrent fun other hother => hvalid other (List.mem_cons_of_mem _ hother)
    have hafter : (poll state current opened now).dio.lastVal = current := rfl
    rw [run_cons, hstep, hrest, events_poll, List.append_assoc, List.map_cons, changes,
      edge_eq hlast hcurrent rfl, ← lastValid_of_valid hcurrent
        (lastValid false (pin.value state.dio.lastVal)), hafter]
    split
    · next hsame => rw [hsame, List.nil_append]
    · rfl

/-- In every run in which the readings of an input do not fail, however the monitoring is
started and stopped in between, its events are exactly the changes of its readings. -/
theorem events_run (pin : Pin) (pins : Inputs ℤ) (barrierOpenTooLongTime : ℤ)
    (inputs : List Input)
    (hvalid : Valid pin (polled (State.init pins barrierOpenTooLongTime) inputs)) :
    pin.events (run step (State.init pins barrierOpenTooLongTime) inputs).effects =
      changes false ((polled (State.init pins barrierOpenTooLongTime) inputs).map fun poll =>
        pin.value poll.current) := by
  have hlow : pin.value (State.init pins barrierOpenTooLongTime).dio.lastVal = .low := by
    cases pin <;> rfl
  have hrun := events_from pin (State.init pins barrierOpenTooLongTime) inputs
    (by rw [hlow]; rfl) hvalid
  rw [hlow] at hrun
  exact hrun

/-- The printing of a receipt is asked for twice while loop A cannot be read. -/
theorem events_run_receipts :
    let high : Inputs Reading := { Inputs.all .low with loopA := .failed, printReceipt := .high }
    let inputs : List Input :=
      [.start, .turn (.all .low) 0 0, .turn high 1 1, .turn (.all .low) 2 2, .stop, .turn high 3 3,
        .completed, .start, .turn high 4 4]
    Pin.printReceipt.events (run step (State.init (.all 0) 60) inputs).effects =
        changes false ((polled (State.init (.all 0) 60) inputs).map fun poll =>
          Pin.printReceipt.value poll.current) ∧
      changes false ((polled (State.init (.all 0) 60) inputs).map fun poll =>
        Pin.printReceipt.value poll.current) = [true, false, true] :=
  ⟨events_run .printReceipt (.all 0) 60 _ (by decide), by decide⟩

/-! ## The alarm -/

/-- What concerns the barrier: it goes up or comes down, the alarm is raised or taken back. -/
inductive BarrierEvent
  | up
  | down
  | raised
  | takenBack
  deriving DecidableEq, Repr

def barrierEvent? : Effect → Option BarrierEvent
  | .event .barrierStatusOn => some .up
  | .event .barrierStatusOff => some .down
  | .event .barrierOpenTooLongOn => some .raised
  | .event .barrierOpenTooLongOff => some .takenBack
  | _ => none

def barrierEvents (effects : List Effect) : List BarrierEvent := effects.filterMap barrierEvent?

@[simp] theorem barrierEvents_append (first second : List Effect) :
    barrierEvents (first ++ second) = barrierEvents first ++ barrierEvents second :=
  List.filterMap_append

/-- A keeper of the barrier. -/
inductive Watch
  | closed
  | opened (since : ℤ)
  | alarmed
  deriving DecidableEq, Repr

namespace Watch

def overdue (limit since now : ℤ) : Bool :=
  decide (limit > 0) && decide ((now - since).tdiv 1000000000 > limit)

/-- What the keeper sees and does at one poll. -/
def next (limit : ℤ) (watch : Watch) (up : Bool) (opened now : ℤ) :
    Watch × List BarrierEvent :=
  match watch, up with
  | .closed, false => (.closed, [])
  | .closed, true =>
      if overdue limit opened now then (.alarmed, [.up, .raised]) else (.opened opened, [.up])
  | .opened since, true =>
      if overdue limit since now then (.alarmed, [.raised]) else (.opened since, [])
  | .opened _, false => (.closed, [.down])
  | .alarmed, true => (.alarmed, [])
  | .alarmed, false => (.closed, [.down, .takenBack])

/-- What the keeper does about a list of polls. -/
def report (limit : ℤ) : Watch → List Poll → List BarrierEvent
  | _, [] => []
  | watch, poll :: rest =>
      let (after, events) :=
        next limit watch (lastValid false poll.current.barrierStatus) poll.opened poll.now
      events ++ report limit after rest

/-- The monitoring is where the keeper is. -/
def Matches (watch : Watch) (dio : DIO) : Prop :=
  match watch with
  | .closed => dio.lastVal.barrierStatus = .low ∧ dio.bIsBarrierOpenTooLongTime = false ∧
      dio.barrierOpenSince = none
  | .opened since => dio.lastVal.barrierStatus = .high ∧ dio.bIsBarrierOpenTooLongTime = false ∧
      dio.barrierOpenSince = some since
  | .alarmed => dio.lastVal.barrierStatus = .high ∧ dio.bIsBarrierOpenTooLongTime = true ∧
      dio.barrierOpenSince = none

end Watch

theorem barrierEvents_inputEdges (dio : DIO) (current : Inputs Reading) (pin : Pin) :
    barrierEvents (inputEdges dio current pin) =
      if pin = .barrierStatus then
        (edge dio.lastVal.barrierStatus current.barrierStatus).map fun high =>
          if high then .up else .down
      else [] := by
  have hnone : pin ≠ .barrierStatus → barrierEvents [.event pin.on] = [] ∧
      barrierEvents [.event pin.off] = [] := by
    cases pin <;> decide
  have hstatus : ∀ value, barrierEvents [.inputStatus (pin.value dio.pins) value] = [] :=
    fun _ => rfl
  unfold inputEdges edges
  by_cases hpin : pin = .barrierStatus
  · subst hpin
    rw [if_pos rfl]
    cases hlast : dio.lastVal.barrierStatus <;> cases hcurrent : current.barrierStatus <;>
      simp [Pin.value, hlast, hcurrent, rises, falls, edge] <;> rfl
  · rw [if_neg hpin]
    split
    · rw [barrierEvents_append, (hnone hpin).1, hstatus, List.append_nil]
    · split
      · rw [barrierEvents_append, (hnone hpin).2, hstatus, List.append_nil]
      · rfl

theorem barrierEvents_processDIOChanges (dio : DIO) (current : Inputs Reading)
    (opened now : ℤ) :
    barrierEvents (processDIOChanges dio current opened now).2 =
      ((edge dio.lastVal.barrierStatus current.barrierStatus).map fun high =>
          if high then .up else .down) ++
        (if alarmCleared dio current then [.takenBack] else []) ++
        (if alarmRaised dio current opened now then [.raised] else []) := by
  obtain ⟨hloops, hloopA, hloopB⟩ := @filterMap_loops _ barrierEvent? dio current
    (by decide) fun _ _ => rfl
  rw [← barrierEvents] at hloops hloopA hloopB
  have htaken : ∀ condition : Bool, barrierEvents
      (if condition then [.event .barrierOpenTooLongOff] else []) =
        if condition then [.takenBack] else [] := by
    decide
  have hraised : ∀ condition : Bool, barrierEvents
      (if condition then [.event .barrierOpenTooLongOn] else []) =
        if condition then [.raised] else [] := by
    decide
  rw [effects_eq]
  simp only [barrierEvents_append, hloops, hloopA, hloopB, barrierEvents_inputEdges, htaken,
    hraised, reduceCtorEq, if_true, if_false, List.nil_append, List.append_nil]

namespace Watch

/-- A poll does what the keeper does and stays where it is. -/
theorem Matches.poll {watch : Watch} {state : State} (hmatches : watch.Matches state.dio)
    {current : Inputs Reading} (hcurrent : current.barrierStatus.valid = true) (opened now : ℤ) :
    let (after, events) := next state.dio.iBarrierOpenTooLongTime watch
      (lastValid false current.barrierStatus) opened now
    after.Matches (poll state current opened now).dio ∧
      barrierEvents (poll state current opened now).effects =
        barrierEvents state.effects ++ events := by
  have heffects : barrierEvents (LinuxPBS.Dio.poll state current opened now).effects =
      barrierEvents state.effects ++
        barrierEvents (processDIOChanges state.dio current opened now).2 := by
    rw [← barrierEvents_append]
    rfl
  have hafter : (LinuxPBS.Dio.poll state current opened now).dio.lastVal = current := rfl
  have hflag : (LinuxPBS.Dio.poll state current opened now).dio.bIsBarrierOpenTooLongTime =
      (alarmRaised state.dio current opened now || (state.dio.bIsBarrierOpenTooLongTime &&
        !falls state.dio.lastVal.barrierStatus current.barrierStatus)) := rfl
  have hsince : (LinuxPBS.Dio.poll state current opened now).dio.barrierOpenSince =
      if alarmRaised state.dio current opened now then none
      else openSince state.dio current opened := rfl
  rw [heffects, barrierEvents_processDIOChanges]
  cases watch with
  | closed =>
      obtain ⟨hlast, hoff, hnone⟩ := hmatches
      cases hreading : current.barrierStatus with
      | failed => rw [hreading] at hcurrent; cases hcurrent
      | low =>
          have hraised : alarmRaised state.dio current opened now = false := by
            simp [alarmRaised, openSince, hlast, hreading, rises, falls, hnone]
          simp [next, Matches, hafter, hflag, hsince, hraised, hlast, hreading, hoff, hnone,
            alarmCleared, openSince, edge, rises, falls, lastValid]
      | high =>
          have hraised : alarmRaised state.dio current opened now =
              overdue state.dio.iBarrierOpenTooLongTime opened now := by
            simp [alarmRaised, overdue, openSince, hlast, hreading, rises]
          cases hover : overdue state.dio.iBarrierOpenTooLongTime opened now <;>
            simp [next, Matches, hafter, hflag, hsince, hraised, hover, hlast, hreading, hoff,
              alarmCleared, openSince, edge, rises, falls, lastValid]
  | opened since =>
      obtain ⟨hlast, hoff, hsome⟩ := hmatches
      cases hreading : current.barrierStatus with
      | failed => rw [hreading] at hcurrent; cases hcurrent
      | low =>
          have hraised : alarmRaised state.dio current opened now = false := by
            simp [alarmRaised, openSince, hlast, hreading, rises, falls]
          simp [next, Matches, hafter, hflag, hsince, hraised, hlast, hreading, hoff,
            alarmCleared, openSince, edge, rises, falls, lastValid]
      | high =>
          have hraised : alarmRaised state.dio current opened now =
              overdue state.dio.iBarrierOpenTooLongTime since now := by
            simp [alarmRaised, overdue, openSince, hlast, hreading, rises, falls, hsome]
          cases hover : overdue state.dio.iBarrierOpenTooLongTime since now <;>
            simp [next, Matches, hafter, hflag, hsince, hraised, hover, hlast, hreading, hoff,
              hsome, alarmCleared, openSince, edge, rises, falls, lastValid]
  | alarmed =>
      obtain ⟨hlast, hon, hnone⟩ := hmatches
      have hraised : alarmRaised state.dio current opened now = false := by
        cases hreading : current.barrierStatus <;>
          simp [alarmRaised, openSince, hlast, hreading, rises, falls, hnone]
      cases hreading : current.barrierStatus with
      | failed => rw [hreading] at hcurrent; cases hcurrent
      | low =>
          simp [next, Matches, hafter, hflag, hsince, hraised, hlast, hreading, hon,
            alarmCleared, openSince, edge, rises, falls, lastValid]
      | high =>
          simp [next, Matches, hafter, hflag, hsince, hraised, hlast, hreading, hon, hnone,
            alarmCleared, openSince, edge, rises, falls, lastValid]

theorem report_from (state : State) (inputs : List Input) (watch : Watch)
    (hmatches : watch.Matches state.dio) (hvalid : Valid .barrierStatus (polled state inputs)) :
    barrierEvents (run step state inputs).effects = barrierEvents state.effects ++
      report state.dio.iBarrierOpenTooLongTime watch (polled state inputs) := by
  revert watch hmatches hvalid
  refine @polled_induction (fun state inputs polls => ∀ watch : Watch, watch.Matches state.dio →
    Valid .barrierStatus polls → barrierEvents (run step state inputs).effects =
      barrierEvents state.effects ++ report state.dio.iBarrierOpenTooLongTime watch polls)
    ?_ ?_ ?_ state inputs
  · intro state watch _ _
    exact (List.append_nil _).symm
  · intro state input rest hoff ih watch hmatches hvalid
    obtain ⟨hlast, hlimit, hflag, hsince, heffects⟩ := step_of_not_polls hoff
    have hsame : watch.Matches (step state input).dio := by
      cases watch <;> simp only [Matches, hlast, hflag, hsince] <;> exact hmatches
    rw [hlimit, heffects] at ih
    exact ih watch hsame hvalid
  · intro state current opened now rest hstep ih watch hmatches hvalid
    obtain ⟨hafter, hevents⟩ := hmatches.poll (hvalid _ List.mem_cons_self) opened now
    have hrest := ih _ hafter fun other hother => hvalid other (List.mem_cons_of_mem _ hother)
    rw [run_cons, hstep, hrest, hevents, List.append_assoc]
    rfl

end Watch

/-- In every run in which the readings of the barrier do not fail, its events and those of the
alarm are the report of the keeper about the polls: the alarm is raised at the first poll of an
opening that is late, once, and it is taken back at the end of that opening. -/
theorem alarm_run (pins : Inputs ℤ) (barrierOpenTooLongTime : ℤ) (inputs : List Input)
    (hvalid : Valid .barrierStatus (polled (State.init pins barrierOpenTooLongTime) inputs)) :
    barrierEvents (run step (State.init pins barrierOpenTooLongTime) inputs).effects =
      Watch.report barrierOpenTooLongTime .closed
        (polled (State.init pins barrierOpenTooLongTime) inputs) :=
  Watch.report_from _ inputs .closed ⟨rfl, rfl, rfl⟩ hvalid

/-- A barrier that is up for 61 seconds under a limit of 60, in a run that is stopped on the way. -/
theorem alarm_run_late :
    let high : Inputs Reading := { Inputs.all .low with barrierStatus := .high }
    let inputs : List Input :=
      [.start, .turn (.all .low) 0 0, .turn high 5000000000 5000000001, .stop, .turn high 7 7,
        .completed, .start, .turn high 66000000000 66000000000,
        .turn high 67000000000 67000000000, .turn (.all .low) 68000000000 68000000000]
    barrierEvents (run step (State.init (.all 0) 60) inputs).effects =
        Watch.report 60 .closed (polled (State.init (.all 0) 60) inputs) ∧
      Watch.report 60 .closed (polled (State.init (.all 0) 60) inputs) =
        [.up, .raised, .down, .takenBack] :=
  ⟨alarm_run (.all 0) 60 _ (by decide), by decide⟩

end LinuxPBS.Dio

import Mathlib.Data.Int.Notation
import Mathlib.Data.List.Basic
import LinuxPBS.Library.Machine

/-!
# The digital inputs and the two loops

`DIO` polls its input pins, compares every reading with the one of the poll before and hands
what has changed to the operation.  The monitoring loop is a coroutine that is started and
stopped from outside; an input of `step` is one of these calls, one turn of the coroutine with
the readings it finds, or an end of the coroutine.

Loops A and B stand for one state, `gbLoopApresent`, which has one pair of events.  The six
cases of `processDIOChanges` are the change of this state, if all four readings are valid, and
nothing otherwise (`loopEffects_eq`).  A failed read becomes the reading before of the next
poll, so that a change is missed that meets one in either poll, and it is never made up for
(`tracks_iff`).
-/

namespace LinuxPBS.Dio

open Machine

/-! ## The pins -/

/-- A reading of a pin: `GPIO_LOW`, `GPIO_HIGH`, or `-1` if it failed. -/
inductive Reading
  | low
  | high
  | failed
  deriving DecidableEq, Repr

/-- One value for every input pin. -/
structure Inputs (α : Type) where
  loopA : α
  loopB : α
  loopC : α
  intercom : α
  stationDoorOpen : α
  barrierDoorOpen : α
  barrierStatus : α
  manualOpenBarrier : α
  lorrySensor : α
  armBroken : α
  printReceipt : α
  deriving DecidableEq, Repr

/-- `Inputs` with one value on all pins. -/
def Inputs.all {α : Type} (value : α) : Inputs α :=
  ⟨value, value, value, value, value, value, value, value, value, value, value⟩

/-- `DIO_EVENT` -/
inductive DioEvent
  | loopAOn
  | loopAOff
  | loopBOn
  | loopBOff
  | loopCOn
  | loopCOff
  | intercomOn
  | intercomOff
  | stationDoorOpen
  | stationDoorClose
  | barrierDoorOpen
  | barrierDoorClose
  | barrierStatusOn
  | barrierStatusOff
  | manualOpenBarriedOn
  | manualOpenBarriedOff
  | lorrySensorOn
  | lorrySensorOff
  | armBrokenOn
  | armBrokenOff
  | printReceiptOn
  | printReceiptOff
  | barrierOpenTooLongOn
  | barrierOpenTooLongOff
  deriving DecidableEq, Repr

/-- What a poll does outside of `DIO`. -/
inductive Effect
  /-- `FnSetLoopAPresent` -/
  | setLoopAPresent (present : Bool)
  /-- an event for `Evt_handleDIOEvent` -/
  | event (event : DioEvent)
  /-- `FnSendDIOInputStatusToMonitor` -/
  | inputStatus (pinNum pinValue : ℤ)
  deriving DecidableEq, Repr

/-- The fields of `DIO` the monitoring uses; times are in nanoseconds. -/
structure DIO where
  /-- the input numbers of the configuration -/
  pins : Inputs ℤ
  iBarrierOpenTooLongTime : ℤ
  /-- the readings of the poll before -/
  lastVal : Inputs Reading := .all .low
  manualOpenBarrierStatusFlag : ℤ := 0
  bIsBarrierOpenTooLongTime : Bool := false
  barrierOpenSince : Option ℤ := none
  stopping : Bool := false
  monitoringEnabled : Bool := false
  monitoringCoroutineActive : Bool := false
  /-- the coroutine has been spawned and has not returned -/
  coroutine : Bool := false
  deriving DecidableEq, Repr

/-! ## One poll -/

def rises (last current : Reading) : Bool := current = .high ∧ last = .low

def falls (last current : Reading) : Bool := current = .low ∧ last = .high

/-- The cases of `processDIOChanges` for loops A and B. -/
def loopEffects (lastA lastB currentA currentB : Reading) : List Effect :=
  let on : List Effect := [.setLoopAPresent true, .event .loopAOn]
  let off : List Effect := [.setLoopAPresent false, .event .loopAOff]
  (if rises lastA currentA ∧ (currentB = .low ∧ lastB = .low) then on
    else if rises lastB currentB ∧ (currentA = .low ∧ lastA = .low) then on
    else if rises lastA currentA ∧ rises lastB currentB then on
    else []) ++
  (if falls lastA currentA ∧ (currentB = .low ∧ lastB = .low) then off
    else if falls lastB currentB ∧ (currentA = .low ∧ lastA = .low) then off
    else if falls lastA currentA ∧ falls lastB currentB then off
    else [])

/-- The two edges of a pin; `on` and `off` are what its edges do besides the status. -/
def edges (last current : Reading) (pinNum : ℤ) (on off : List Effect) : List Effect :=
  if rises last current then on ++ [.inputStatus pinNum 1]
  else if falls last current then off ++ [.inputStatus pinNum 0]
  else []

/-- `processDIOChanges`; the clock is read once when the barrier opens and once at the end. -/
def processDIOChanges (dio : DIO) (current : Inputs Reading) (opened now : ℤ) :
    DIO × List Effect :=
  let last := dio.lastVal
  let pins := dio.pins
  let barrierOn := rises last.barrierStatus current.barrierStatus
  let barrierOff := falls last.barrierStatus current.barrierStatus
  let since := if barrierOn then some opened else if barrierOff then none else dio.barrierOpenSince
  let cleared := barrierOff && dio.bIsBarrierOpenTooLongTime
  let tooLong := decide (dio.iBarrierOpenTooLongTime > 0) &&
    since.any fun since => decide ((now - since).tdiv 1000000000 > dio.iBarrierOpenTooLongTime)
  ({ dio with
      manualOpenBarrierStatusFlag :=
        if rises last.manualOpenBarrier current.manualOpenBarrier then 1
        else dio.manualOpenBarrierStatusFlag
      bIsBarrierOpenTooLongTime := tooLong || (dio.bIsBarrierOpenTooLongTime && !barrierOff)
      barrierOpenSince := if tooLong then none else since },
    loopEffects last.loopA last.loopB current.loopA current.loopB ++
      (edges last.loopA current.loopA pins.loopA [] [] ++
        edges last.loopB current.loopB pins.loopB [] [] ++
        edges last.loopC current.loopC pins.loopC [.event .loopCOn] [.event .loopCOff] ++
        edges last.intercom current.intercom pins.intercom
          [.event .intercomOn] [.event .intercomOff] ++
        edges last.stationDoorOpen current.stationDoorOpen pins.stationDoorOpen
          [.event .stationDoorOpen] [.event .stationDoorClose] ++
        edges last.barrierDoorOpen current.barrierDoorOpen pins.barrierDoorOpen
          [.event .barrierDoorOpen] [.event .barrierDoorClose] ++
        edges last.barrierStatus current.barrierStatus pins.barrierStatus
          [.event .barrierStatusOn] [.event .barrierStatusOff] ++
        (if cleared then [.event .barrierOpenTooLongOff] else []) ++
        edges last.manualOpenBarrier current.manualOpenBarrier pins.manualOpenBarrier
          [.event .manualOpenBarriedOn] [.event .manualOpenBarriedOff] ++
        edges last.lorrySensor current.lorrySensor pins.lorrySensor
          [.event .lorrySensorOn] [.event .lorrySensorOff] ++
        edges last.armBroken current.armBroken pins.armBroken
          [.event .armBrokenOn] [.event .armBrokenOff] ++
        edges last.printReceipt current.printReceipt pins.printReceipt
          [.event .printReceiptOn] [.event .printReceiptOff] ++
        (if tooLong then [.event .barrierOpenTooLongOn] else [])))

/-- `updateLastSnapshot` -/
def updateLastSnapshot (dio : DIO) (current : Inputs Reading) : DIO :=
  { dio with lastVal := current }

/-! ## The monitoring -/

/-- `startMonitoringOnIOThread` -/
def startMonitoringOnIOThread (dio : DIO) : DIO :=
  if dio.stopping then dio
  else if dio.monitoringCoroutineActive then { dio with monitoringEnabled := true }
  else
    { dio with
      monitoringEnabled := true
      monitoringCoroutineActive := true
      coroutine := true }

/-- `stopMonitoringOnIOThread`; the timer it cancels ends the wait of the coroutine. -/
def stopMonitoringOnIOThread (dio : DIO) : DIO := { dio with monitoringEnabled := false }

inductive Input
  /-- a posted `startMonitoringOnIOThread` -/
  | start
  /-- a posted `stopMonitoringOnIOThread` -/
  | stop
  /-- `FnDIOShutdown` with what it posts -/
  | shutdown
  /-- the coroutine goes on, after its start or a wait that has expired or was cancelled -/
  | turn (current : Inputs Reading) (opened now : ℤ)
  /-- the wait fails, and the coroutine returns -/
  | timerError
  /-- the completion handler of the coroutine -/
  | completed
  deriving DecidableEq, Repr

/-- `DIO` with the flag of the operation, all effects so far, and what is to be compared with
them: of both loops whether they were high at their last valid reading, and how often this
has changed for the two together. -/
structure State where
  dio : DIO
  gbLoopApresent : Bool := false
  effects : List Effect := []
  loopA : Bool := false
  loopB : Bool := false
  changes : ℕ := 0
  deriving DecidableEq, Repr

/-- A loop was high at its last valid reading. -/
def lastValid (before : Bool) : Reading → Bool
  | .low => false
  | .high => true
  | .failed => before

/-- The flag after an effect. -/
def flagAfter (flag : Bool) : Effect → Bool
  | .setLoopAPresent present => present
  | _ => flag

namespace State

/-- One of the loops was high at its last valid reading. -/
def present (state : State) : Bool := state.loopA || state.loopB

/-- The same after a poll. -/
def presentAfter (state : State) (current : Inputs Reading) : Bool :=
  lastValid state.loopA current.loopA || lastValid state.loopB current.loopB

/-- The head of the loop of `monitoringDIOLoopAsync` -/
def polls (state : State) : Bool :=
  state.dio.coroutine && (state.dio.monitoringEnabled && !state.dio.stopping)

end State

/-- One round of `monitoringDIOLoopAsync` -/
def poll (state : State) (current : Inputs Reading) (opened now : ℤ) : State :=
  let (dio, effects) := processDIOChanges state.dio current opened now
  { dio := updateLastSnapshot dio current
    gbLoopApresent := effects.foldl flagAfter state.gbLoopApresent
    effects := state.effects ++ effects
    loopA := lastValid state.loopA current.loopA
    loopB := lastValid state.loopB current.loopB
    changes :=
      if state.presentAfter current = state.present then state.changes else state.changes + 1 }

def step (state : State) : Input → State
  | .start => { state with dio := startMonitoringOnIOThread state.dio }
  | .stop => { state with dio := stopMonitoringOnIOThread state.dio }
  | .shutdown => { state with dio := stopMonitoringOnIOThread { state.dio with stopping := true } }
  | .turn current opened now =>
      if state.polls then poll state current opened now
      else { state with dio := { state.dio with coroutine := false } }
  | .timerError => { state with dio := { state.dio with coroutine := false } }
  | .completed =>
      { state with
        dio :=
          { state.dio with
            monitoringCoroutineActive :=
              state.dio.monitoringCoroutineActive && state.dio.coroutine } }

/-- After `FnDIOInit`. -/
def State.init (pins : Inputs ℤ) (barrierOpenTooLongTime : ℤ) : State where
  dio := { pins := pins, iBarrierOpenTooLongTime := barrierOpenTooLongTime }

/-! ## The six cases -/

def Reading.valid (reading : Reading) : Bool := reading ≠ .failed

/-- All readings the cases compare are valid. -/
def allValid (lastA lastB currentA currentB : Reading) : Bool :=
  lastA.valid && lastB.valid && (currentA.valid && currentB.valid)

/-- What the loops do together: they switch the presence on or off, or leave it as it is. -/
def presenceEffects (before after : Bool) : List Effect :=
  if before = after then []
  else [.setLoopAPresent after, .event (if after then .loopAOn else .loopAOff)]

/-- The cases are the change of the presence, provided that all four readings are valid. -/
theorem loopEffects_eq (lastA lastB currentA currentB : Reading) :
    loopEffects lastA lastB currentA currentB =
      if allValid lastA lastB currentA currentB then
        presenceEffects (lastValid false lastA || lastValid false lastB)
          (lastValid false currentA || lastValid false currentB)
      else [] := by
  cases lastA <;> cases lastB <;> cases currentA <;> cases currentB <;> rfl

/-- An event of the two loops: whether it reports a presence. -/
def loopEvent : Effect → Option Bool
  | .event .loopAOn => some true
  | .event .loopAOff => some false
  | _ => none

def loopEvents (effects : List Effect) : List Bool := effects.filterMap loopEvent

@[simp] theorem loopEvents_append (first second : List Effect) :
    loopEvents (first ++ second) = loopEvents first ++ loopEvents second :=
  List.filterMap_append

theorem loopEvents_presenceEffects (before after : Bool) :
    loopEvents (presenceEffects before after) = if before = after then [] else [after] := by
  cases before <;> cases after <;> rfl

theorem foldl_presenceEffects (flag before after : Bool) :
    (presenceEffects before after).foldl flagAfter flag =
      if before = after then flag else after := by
  cases before <;> cases after <;> rfl

/-- Effects that concern neither the flag nor the events of the loops. -/
def Aside (effects : List Effect) : Prop :=
  loopEvents effects = [] ∧ ∀ flag, effects.foldl flagAfter flag = flag

theorem Aside.append {first second : List Effect} (hfirst : Aside first)
    (hsecond : Aside second) : Aside (first ++ second) := by
  obtain ⟨hnone, hflag⟩ := hfirst
  obtain ⟨hnone', hflag'⟩ := hsecond
  refine ⟨?_, fun flag => ?_⟩
  · rw [loopEvents_append, hnone, hnone', List.append_nil]
  · rw [List.foldl_append, hflag, hflag']

theorem aside_nil : Aside [] := ⟨rfl, fun _ => rfl⟩

theorem aside_event {event : DioEvent} (hon : event ≠ .loopAOn) (hoff : event ≠ .loopAOff) :
    Aside [.event event] := by
  refine ⟨?_, fun flag => rfl⟩
  cases event with
  | loopAOn => exact absurd rfl hon
  | loopAOff => exact absurd rfl hoff
  | _ => rfl

theorem aside_edges (last current : Reading) (pinNum : ℤ) {on off : List Effect} (hon : Aside on)
    (hoff : Aside off) : Aside (edges last current pinNum on off) := by
  have hstatus (value : ℤ) : Aside [.inputStatus pinNum value] := ⟨rfl, fun _ => rfl⟩
  unfold edges
  split
  · exact hon.append (hstatus 1)
  · split
    · exact hoff.append (hstatus 0)
    · exact aside_nil

theorem aside_if (condition : Bool) {effects : List Effect} (haside : Aside effects) :
    Aside (if condition then effects else []) := by
  split
  · exact haside
  · exact aside_nil

/-- Besides the six cases a poll does nothing about the loops. -/
theorem processDIOChanges_effects (dio : DIO) (current : Inputs Reading) (opened now : ℤ) :
    ∃ rest, Aside rest ∧ (processDIOChanges dio current opened now).2 =
      loopEffects dio.lastVal.loopA dio.lastVal.loopB current.loopA current.loopB ++ rest := by
  refine ⟨_, ?_, rfl⟩
  have hedges (last current : Reading) (pinNum : ℤ) {on off : DioEvent}
      (hon : on ≠ .loopAOn ∧ on ≠ .loopAOff) (hoff : off ≠ .loopAOn ∧ off ≠ .loopAOff) :
      Aside (edges last current pinNum [.event on] [.event off]) :=
    aside_edges _ _ _ (aside_event hon.1 hon.2) (aside_event hoff.1 hoff.2)
  have hloop (last current : Reading) (pinNum : ℤ) : Aside (edges last current pinNum [] []) :=
    aside_edges _ _ _ aside_nil aside_nil
  have hlong (condition : Bool) {event : DioEvent} (hevent : event ≠ .loopAOn ∧ event ≠ .loopAOff) :
      Aside (if condition then [.event event] else []) :=
    aside_if condition (aside_event hevent.1 hevent.2)
  repeat' apply Aside.append
  all_goals first | apply hloop | (apply hedges <;> decide) | (apply hlong; decide)

/-! ## Every poll -/

/-- ON and OFF in turn, from ON on. -/
def alternating (count : ℕ) : List Bool := (List.range count).map fun index => index % 2 = 0

theorem alternating_succ (count : ℕ) :
    alternating (count + 1) = alternating count ++ [decide (count % 2 = 0)] := by
  rw [alternating, List.range_succ, List.map_append, alternating, List.map_singleton]

theorem alternating_length (count : ℕ) : (alternating count).length = count := by
  rw [alternating, List.length_map, List.length_range]

theorem alternating_last (count : ℕ) :
    (alternating count).getLast?.getD false = decide (count % 2 = 1) := by
  cases count with
  | zero => rfl
  | succ count =>
      rw [alternating_succ, List.getLast?_concat, Option.getD_some]
      exact decide_eq_decide.mpr (by omega)

/-- The flag is the presence of the last valid readings, and the events report its changes. -/
def State.Tracks (state : State) : Prop :=
  state.gbLoopApresent = state.present ∧ loopEvents state.effects = alternating state.changes

/-- A poll at which the presence changes compares valid readings only. -/
def SeesChange (state : State) : Input → Prop
  | .turn current _ _ =>
      state.polls → state.presentAfter current ≠ state.present →
        allValid state.dio.lastVal.loopA state.dio.lastVal.loopB current.loopA current.loopB
  | _ => True

/-- What every poll keeps: a valid reading of the poll before is the last valid one, the changes
alternate, no event is raised without a change, and the flag is that of the last event. -/
structure Sound (state : State) : Prop where
  knownA : state.dio.lastVal.loopA.valid → lastValid false state.dio.lastVal.loopA = state.loopA
  knownB : state.dio.lastVal.loopB.valid → lastValid false state.dio.lastVal.loopB = state.loopB
  parity : state.present = decide (state.changes % 2 = 1)
  few : (loopEvents state.effects).length ≤ state.changes
  flag : state.gbLoopApresent = (loopEvents state.effects).getLast?.getD false

theorem lastValid_of_valid {reading : Reading} (hvalid : reading.valid) (before : Bool) :
    lastValid false reading = lastValid before reading := by
  cases reading with
  | failed => cases hvalid
  | _ => rfl

/-- The presence changes, and the poll sees it. -/
def reports (state : State) (current : Inputs Reading) : Bool :=
  allValid state.dio.lastVal.loopA state.dio.lastVal.loopB current.loopA current.loopB &&
    state.presentAfter current ≠ state.present

theorem reports_iff {state : State} {current : Inputs Reading} :
    reports state current ↔
      allValid state.dio.lastVal.loopA state.dio.lastVal.loopB current.loopA current.loopB ∧
        state.presentAfter current ≠ state.present := by
  rw [reports, Bool.and_eq_true, decide_eq_true_eq]

/-- What a poll does about the loops. -/
theorem poll_reports {state : State} (hsound : Sound state) (current : Inputs Reading)
    (opened now : ℤ) :
    loopEvents (poll state current opened now).effects = loopEvents state.effects ++
        (if reports state current then [state.presentAfter current] else []) ∧
      (poll state current opened now).gbLoopApresent =
        if reports state current then state.presentAfter current else state.gbLoopApresent := by
  obtain ⟨rest, ⟨hnone, hflag⟩, hrest⟩ := processDIOChanges_effects state.dio current opened now
  have hloops : loopEffects state.dio.lastVal.loopA state.dio.lastVal.loopB current.loopA
      current.loopB = if reports state current then
        presenceEffects state.present (state.presentAfter current) else [] := by
    rw [loopEffects_eq, reports]
    by_cases hvalid : allValid state.dio.lastVal.loopA state.dio.lastVal.loopB current.loopA
        current.loopB = true
    · have hknown := hvalid
      simp only [allValid, Bool.and_eq_true] at hknown
      obtain ⟨⟨hlastA, hlastB⟩, hcurrentA, hcurrentB⟩ := hknown
      rw [if_pos hvalid, hvalid, Bool.true_and, hsound.knownA hlastA, hsound.knownB hlastB,
        lastValid_of_valid hcurrentA state.loopA, lastValid_of_valid hcurrentB state.loopB]
      change presenceEffects state.present (state.presentAfter current) = _
      by_cases hsame : state.presentAfter current = state.present
      · simp only [hsame, presenceEffects, if_true, ite_self]
      · rw [if_pos (decide_eq_true hsame)]
    · rw [if_neg hvalid, Bool.eq_false_iff.mpr hvalid, Bool.false_and,
        if_neg Bool.false_ne_true]
  have heffects : (poll state current opened now).effects =
      state.effects ++ (processDIOChanges state.dio current opened now).2 := rfl
  have hpresent : (poll state current opened now).gbLoopApresent =
      (processDIOChanges state.dio current opened now).2.foldl flagAfter state.gbLoopApresent := rfl
  rw [heffects, hpresent, hrest, hloops, List.foldl_append, hflag, loopEvents_append,
    loopEvents_append, hnone, List.append_nil]
  split
  · next hreports =>
      have hchange := (reports_iff.mp hreports).2.symm
      rw [loopEvents_presenceEffects, foldl_presenceEffects, if_neg hchange, if_neg hchange]
      exact ⟨rfl, rfl⟩
  · exact ⟨rfl, rfl⟩

theorem poll_present (state : State) (current : Inputs Reading) (opened now : ℤ) :
    (poll state current opened now).present = state.presentAfter current := rfl

theorem poll_changes (state : State) (current : Inputs Reading) (opened now : ℤ) :
    (poll state current opened now).changes =
      if state.presentAfter current = state.present then state.changes else state.changes + 1 :=
  rfl

theorem poll_sound {state : State} (hsound : Sound state) (current : Inputs Reading)
    (opened now : ℤ) : Sound (poll state current opened now) := by
  obtain ⟨hevents, hflag⟩ := poll_reports hsound current opened now
  refine ⟨fun hvalid => lastValid_of_valid hvalid _, fun hvalid => lastValid_of_valid hvalid _,
    ?_, ?_, ?_⟩
  · have hparity := hsound.parity
    rw [poll_present, poll_changes]
    split
    · next hsame => rw [hsame, hparity]
    · next hchange =>
        rw [Bool.eq_not_of_ne hchange, hparity, ← decide_not]
        exact decide_eq_decide.mpr (by omega)
  · have hfew := hsound.few
    rw [hevents, List.length_append, poll_changes]
    split
    · next hreports =>
        rw [if_neg (reports_iff.mp hreports).2, List.length_singleton]
        omega
    · rw [List.length_nil]
      split <;> omega
  · rw [hevents, hflag]
    split
    · rw [List.getLast?_concat, Option.getD_some]
    · rw [List.append_nil, hsound.flag]

/-- The flag needs no rule of its own: it follows the events. -/
theorem Sound.tracks_changes {state : State} (hsound : Sound state) :
    state.Tracks ↔ loopEvents state.effects = alternating state.changes := by
  refine ⟨And.right, fun hevents => ⟨?_, hevents⟩⟩
  rw [hsound.flag, hevents, alternating_last, hsound.parity]

/-- A change that a poll does not see is not made up for. -/
theorem poll_tracks_iff {state : State} (hsound : Sound state) (current : Inputs Reading)
    (opened now : ℤ) :
    (poll state current opened now).Tracks ↔ state.Tracks ∧
      (state.presentAfter current ≠ state.present →
        allValid state.dio.lastVal.loopA state.dio.lastVal.loopB current.loopA current.loopB) := by
  obtain ⟨hevents, -⟩ := poll_reports hsound current opened now
  rw [(poll_sound hsound current opened now).tracks_changes, hsound.tracks_changes, hevents,
    poll_changes]
  by_cases hsame : state.presentAfter current = state.present
  · have hreports : ¬reports state current := fun hreports => (reports_iff.mp hreports).2 hsame
    rw [if_neg hreports, if_pos hsame, List.append_nil]
    exact (and_iff_left fun hchange => absurd hsame hchange).symm
  · rw [if_neg hsame]
    by_cases hvalid : allValid state.dio.lastVal.loopA state.dio.lastVal.loopB current.loopA
        current.loopB
    · have hafter : state.presentAfter current = decide (state.changes % 2 = 0) := by
        rw [Bool.eq_not_of_ne hsame, hsound.parity, ← decide_not]
        exact decide_eq_decide.mpr (by omega)
      rw [if_pos (reports_iff.mpr ⟨hvalid, hsame⟩), alternating_succ, ← hafter,
        List.append_left_inj]
      exact (and_iff_left fun _ => hvalid).symm
    · have hreports : ¬reports state current := fun hreports => hvalid (reports_iff.mp hreports).1
      rw [if_neg hreports, List.append_nil]
      constructor
      · intro hequal
        have hlength := congrArg List.length hequal
        rw [alternating_length] at hlength
        have hfew := hsound.few
        omega
      · intro hmeets
        exact absurd (hmeets.2 hsame) hvalid

/-! ## Every run -/

/-- A step without a poll leaves the readings and all that is compared alone. -/
theorem sound_of_dio {state : State} (hsound : Sound state) {dio : DIO}
    (hlast : dio.lastVal = state.dio.lastVal) : Sound { state with dio := dio } :=
  ⟨hlast ▸ hsound.knownA, hlast ▸ hsound.knownB, hsound.parity, hsound.few, hsound.flag⟩

theorem startMonitoringOnIOThread_lastVal (dio : DIO) :
    (startMonitoringOnIOThread dio).lastVal = dio.lastVal := by
  unfold startMonitoringOnIOThread
  split
  · rfl
  · split <;> rfl

theorem step_sound (state : State) (input : Input) (hsound : Sound state) :
    Sound (step state input) := by
  cases input with
  | start => exact sound_of_dio hsound (startMonitoringOnIOThread_lastVal state.dio)
  | turn current opened now =>
      simp only [step]
      split
      · exact poll_sound hsound current opened now
      · exact sound_of_dio hsound rfl
  | stop => exact sound_of_dio hsound rfl
  | shutdown => exact sound_of_dio hsound rfl
  | timerError => exact sound_of_dio hsound rfl
  | completed => exact sound_of_dio hsound rfl

theorem step_tracks_iff (state : State) (input : Input) (hsound : Sound state) :
    (step state input).Tracks ↔ state.Tracks ∧ SeesChange state input := by
  cases input with
  | turn current opened now =>
      simp only [step, SeesChange]
      split
      · next hpolls =>
          rw [poll_tracks_iff hsound]
          simp only [hpolls, forall_const]
      · next hpolls => exact (and_iff_left fun hpolls' => absurd hpolls' hpolls).symm
  | _ => exact (and_iff_left trivial).symm

theorem init_sound (pins : Inputs ℤ) (barrierOpenTooLongTime : ℤ) :
    Sound (State.init pins barrierOpenTooLongTime) :=
  ⟨fun _ => rfl, fun _ => rfl, rfl, Nat.le_refl 0, rfl⟩

/-- The presence is tracked exactly if no change of it meets a failed read, in the poll at which
it is found or in the one before. -/
theorem tracks_iff (pins : Inputs ℤ) (barrierOpenTooLongTime : ℤ) (inputs : List Input) :
    (run step (State.init pins barrierOpenTooLongTime) inputs).Tracks ↔
      Meets step SeesChange (State.init pins barrierOpenTooLongTime) inputs := by
  rw [run_iff_of_keeps step_sound step_tracks_iff (init_sound pins barrierOpenTooLongTime)]
  exact and_iff_right ⟨rfl, rfl⟩

/-- A vehicle comes while loop A cannot be read, and stays unseen. -/
theorem not_tracks_after_failed_read :
    ¬∀ (pins : Inputs ℤ) (barrierOpenTooLongTime : ℤ) (inputs : List Input),
      (run step (State.init pins barrierOpenTooLongTime) inputs).Tracks := by
  intro htracks
  have hrun := htracks (.all 0) 0
    [.start, .turn { Inputs.all .low with loopA := .failed } 0 0,
      .turn { Inputs.all .low with loopA := .high } 0 0]
  exact absurd hrun.1 (by decide)

end LinuxPBS.Dio

import LinuxPBS.Library.Loop
import LinuxPBS.Tariff.Table

/-!
# The fee calculation

`CalFeeRAM2GR`, cut into the pieces of one turn of its outer loop:

```text
head          leave when the day PD lies behind the pay time
getDayInfo    fill the arrays, once for a day
selectZone    a 24-hour block, or the zone the current point pt lies in
checkGrace    grace time, only in front of the first charge
hourly        allowance, up to three free periods, the zone loop, the zone cut-off
perEntry      one charge for the whole zone
settle        zone limits, day limits when pt has left the day, end of the loop
```

`pt` moves through the stay and `PD` is the day in hand; both are moved forward,
`pt` also backwards to a zone boundary.  The `break`s of the source leave the
outer loop from five places; the code behind the loop is `total`.

The outer loop and the zone loop inside of it are `Loop.loop`, so that a run has a
fuel.  That there is always enough fuel is a theorem of its own.
-/

namespace LinuxPBS.Tariff

open Loop

/-- The stay a fee is calculated for. -/
structure Stay where
  tables : Tables
  iTransType : ℤ
  entryTime : ℤ
  /-- `currentTime`: the pay time, rounded up when its second is the later one -/
  currentTime : ℤ

/-- The state of the outer loop.  `PD` is kept as the number of its local day. -/
structure FeeState where
  pd : ℤ
  pt : ℤ
  bGotDayInfo : Bool
  day : Day
  dayFee : ℚ
  charge : ℚ
  bFirstFreed : Bool
  bNoGT : Bool
  bMCPerDayChecked : Bool
  s24HourCharges : ℤ
  currentZone : ℕ
  currentRateType : ℤ
  currentMin : ℚ
  currentMax : ℚ

/-- How the outer loop is left: by a `break`, or with the whole calculation. -/
inductive Exit
  | broke (state : FeeState)
  | ended (ending : Ending)

/-- Carry an ending of the calculation out of the loop. -/
def orEnd {α : Type*} : Except Ending α → Except Exit α
  | .ok value => .ok value
  | .error ending => .error (.ended ending)

/-- "if min > 0 and the fee is below it, the min; then the same with the max". -/
def limitFee (min max fee : ℚ) : ℚ :=
  let fee := if 0 < min ∧ fee < min then min else fee
  if 0 < max ∧ fee > max then max else fee

namespace FeeState

/-- The cells of the selected zone. -/
def zone (state : FeeState) : Zone := state.day.zones state.currentZone

/-- The cells behind the selected zone. -/
def nextZone (state : FeeState) : Zone := state.day.zones (state.currentZone + 1)

/-- `(charge > 0) || (dayFee > 0)` -/
def Charged (state : FeeState) : Prop := 0 < state.charge ∨ 0 < state.dayFee

instance (state : FeeState) : Decidable state.Charged := inferInstanceAs (Decidable (_ ∨ _))

end FeeState

/-! ## The free periods -/

/-- What the free periods leave: `ended` when one of them reached the pay time, `freed`
when the code came to a place that may set `bFirstFreed`. -/
structure FreePeriods where
  pt : ℤ
  zoneFee : ℚ
  ended : Bool
  freed : Bool

namespace Stay

variable (stay : Stay)

/-- `diffmin(pt, currentTime)` -/
def minutesLeft (pt : ℤ) : ℤ := diffmin pt stay.currentTime

/-- A free period behind which nothing else comes. -/
def endFreePeriods (pt : ℤ) (zoneFee : ℚ) (freed : Bool) : FreePeriods :=
  if stay.minutesLeft pt ≤ 0 then ⟨pt, zoneFee, true, false⟩ else ⟨pt, zoneFee, false, freed⟩

/-- The third free period where the second one has gone over the zone boundary. -/
def thirdOverBoundary (zone next : Zone) (iZoneCutoff pt : ℤ) (zoneFee : ℚ) : FreePeriods :=
  if stay.tables.paras.giFirstHour > 2 ∧ iZoneCutoff = 0 then
    if diffmin pt next.zoneTime ≤ 0 ∧ next.rateType = 2 then ⟨pt, zoneFee, false, true⟩
    else stay.endFreePeriods (pt + zone.thirdFree * 60) (zoneFee + zone.thirdAdd) true
  else ⟨pt, zoneFee, false, true⟩

/-- The second free period where the first one has gone over the zone boundary. -/
def secondOverBoundary (zone next : Zone) (iZoneCutoff pt : ℤ) : FreePeriods :=
  if stay.tables.paras.giFirstHour > 1 ∧ iZoneCutoff = 0 then
    if diffmin pt next.zoneTime ≤ 0 ∧ next.rateType = 2 then ⟨pt, zone.firstAdd, false, true⟩
    else
      let pt := pt + zone.secondFree * 60
      let zoneFee := zone.firstAdd + zone.secondAdd
      if stay.minutesLeft pt ≤ 0 then ⟨pt, zoneFee, true, false⟩
      else stay.thirdOverBoundary zone next iZoneCutoff pt zoneFee
  else ⟨pt, zone.firstAdd, false, true⟩

/-- Where a free period ends that reaches the zone boundary. -/
def cutFree (next : Zone) (iZoneCutoff pt free : ℤ) : ℤ :=
  if iZoneCutoff = 1 then next.zoneTime else pt + free * 60

/-- The third free period inside of the zone. -/
def thirdFreePeriod (zone next : Zone) (iZoneCutoff pt : ℤ) : FreePeriods :=
  let zoneFee := zone.firstAdd + zone.secondAdd
  if stay.tables.paras.giFirstHour > 2 then
    let pt :=
      if diffmin pt next.zoneTime ≤ zone.thirdFree then cutFree next iZoneCutoff pt zone.thirdFree
      else pt + zone.thirdFree * 60
    stay.endFreePeriods pt (zoneFee + zone.thirdAdd) true
  else ⟨pt, zoneFee, false, false⟩

/-- The second free period inside of the zone. -/
def secondFreePeriod (zone next : Zone) (iZoneCutoff pt : ℤ) : FreePeriods :=
  if stay.tables.paras.giFirstHour > 1 then
    let zoneFee := zone.firstAdd + zone.secondAdd
    if diffmin pt next.zoneTime ≤ zone.secondFree then
      let pt := cutFree next iZoneCutoff pt zone.secondFree
      if stay.minutesLeft pt ≤ 0 then ⟨pt, zoneFee, true, false⟩
      else stay.thirdOverBoundary zone next iZoneCutoff pt zoneFee
    else
      let pt := pt + zone.secondFree * 60
      if stay.minutesLeft pt ≤ 0 then ⟨pt, zoneFee, true, false⟩
      else stay.thirdFreePeriod zone next iZoneCutoff pt
  else ⟨pt, zone.firstAdd, false, false⟩

/-- The code under `giFirstHour > 0`. -/
def freePeriods (zone next : Zone) (iZoneCutoff pt : ℤ) : FreePeriods :=
  if diffmin pt next.zoneTime ≤ zone.firstFree then
    let pt := cutFree next iZoneCutoff pt zone.firstFree
    if stay.minutesLeft pt ≤ 0 then ⟨pt, zone.firstAdd, true, false⟩
    else stay.secondOverBoundary zone next iZoneCutoff pt
  else
    let pt := pt + zone.firstFree * 60
    if stay.minutesLeft pt ≤ 0 then ⟨pt, zone.firstAdd, true, false⟩
    else stay.secondFreePeriod zone next iZoneCutoff pt

/-! ## The zones -/

/-- `(charge > 0 || dayFee > 0 || zoneFee > 0) && diffmin(pt, currentTime) <= allowance`, for
a zone with an allowance. -/
def WithinAllowance (zone : Zone) (charged : Prop) (pt : ℤ) : Prop :=
  0 < zone.iAllowance ∧ charged ∧ stay.minutesLeft pt ≤ zone.iAllowance

instance (zone : Zone) (charged : Prop) [Decidable charged] (pt : ℤ) :
    Decidable (stay.WithinAllowance zone charged pt) := inferInstanceAs (Decidable (_ ∧ _ ∧ _))

/-- The zone fee with the charge for one more block. -/
def chargeBlock (zone : Zone) (state : FeeState) (pt : ℤ) (zoneFee : ℚ) : ℚ :=
  if stay.WithinAllowance zone (state.Charged ∨ 0 < zoneFee) pt then zoneFee
  else zoneFee + zone.chargeRate

/-- One turn of the zone loop, on the current point and the zone fee. -/
def zoneTurn (zone next : Zone) (state : FeeState) : ℤ × ℚ → Except (ℤ × ℚ) (ℤ × ℚ)
  | (pt, zoneFee) =>
      if diffmin pt next.zoneTime ≤ 0 then .error (pt, zoneFee)
      else
        let zoneFee := stay.chargeBlock zone state pt zoneFee
        if 0 < zone.zoneMax ∧ zoneFee ≥ zone.zoneMax then .error (next.zoneTime, zoneFee)
        else
          let pt := pt + zone.ctb * 60
          if stay.minutesLeft pt ≤ 0 then .error (pt, zoneFee) else .ok (pt, zoneFee)

/-- The zone loop. -/
def zoneLoop (zone next : Zone) (state : FeeState) (fuel : ℕ) (pt : ℤ) (zoneFee : ℚ) :
    Option (ℤ × ℚ) :=
  loop (fun point => some (stay.zoneTurn zone next state point)) fuel (pt, zoneFee)

/-- The zone cut-off behind the zone loop. -/
def cutZone (next : Zone) (iZoneCutoff pt : ℤ) : ℤ :=
  if iZoneCutoff = 1 ∧ diffmin pt next.zoneTime < 0 then
    if stay.tables.paras.giHr2PEAllowance > 0 ∧ next.rateType = 2 then
      if diffmin stay.entryTime stay.currentTime > stay.tables.paras.giHr2PEAllowance then
        next.zoneTime
      else pt
    else next.zoneTime
  else pt

/-- Whether the free periods apply to the selected zone. -/
def HasFreePeriods (state : FeeState) : Prop :=
  state.zone.firstFree > 0 ∧
    (stay.tables.paras.giFirstHourMode = 0 ∨ (state.dayFee = 0 ∧ state.charge = 0)) ∧
    state.bFirstFreed = false ∧ stay.tables.paras.giFirstHour > 0

instance (state : FeeState) : Decidable (stay.HasFreePeriods state) :=
  inferInstanceAs (Decidable (_ ∧ _ ∧ _ ∧ _))

/-- What the free periods of the selected zone leave; nothing happens without them. -/
def freeOf (state : FeeState) : FreePeriods :=
  if stay.HasFreePeriods state then
    stay.freePeriods state.zone state.nextZone state.day.iZoneCutoff state.pt
  else ⟨state.pt, 0, false, false⟩

/-- "hourly charge" -/
def hourly (fuel : ℕ) (state : FeeState) : Option (Except Exit (FeeState × ℚ)) :=
  if state.zone.ctb = 0 then some (.error (.ended (.returned (-3))))
  else if stay.WithinAllowance state.zone state.Charged state.pt then
    some (.error (.broke state))
  else
    let free := stay.freeOf state
    if free.ended then
      some (.error (.broke { state with pt := free.pt, dayFee := state.dayFee + free.zoneFee }))
    else
      let bFirstFreed :=
        state.bFirstFreed || (free.freed && stay.tables.paras.giFirstHourMode == 1)
      (stay.zoneLoop state.zone state.nextZone state fuel free.pt free.zoneFee).map
        fun (pt, zoneFee) =>
          .ok ({ state with
            bFirstFreed
            pt := stay.cutZone state.nextZone state.day.iZoneCutoff pt }, zoneFee)

/-- The rate of a per-entry zone: motorcycles pay once a day. -/
def perEntryRate (state : FeeState) : ℚ :=
  if stay.tables.paras.giMCyclePerDay > 0 ∧ stay.iTransType = 2 ∧
      state.bMCPerDayChecked = false ∧ 0 < state.zone.chargeRate ∧
      0 < stay.tables.hasPaidWithinPeriod state.zone.zoneTime state.nextZone.zoneTime then 0
  else state.zone.chargeRate

/-- Where a per-entry zone leaves the current point. -/
def leavePerEntry (next : Zone) (pt : ℤ) : ℤ :=
  let giPEAllowance := stay.tables.paras.giPEAllowance
  if giPEAllowance > 0 ∧ diffmin pt next.zoneTime < giPEAllowance then pt + giPEAllowance * 60
  else next.zoneTime

/-- "per entry charge" -/
def perEntry (state : FeeState) : FeeState × ℚ :=
  let zoneFee :=
    if stay.WithinAllowance state.zone state.Charged state.pt then 0 else stay.perEntryRate state
  ({ state with
    bMCPerDayChecked := state.bMCPerDayChecked ||
      decide (stay.tables.paras.giMCyclePerDay > 0 ∧ stay.iTransType = 2)
    pt := stay.leavePerEntry state.nextZone state.pt }, zoneFee)

/-! ## One turn of the outer loop -/

/-- Fill the arrays if that has not been done for this day. -/
def getDay (state : FeeState) : Except Exit FeeState :=
  if state.bGotDayInfo then .ok state
  else do
    let day ← orEnd (stay.tables.getDayInfo stay.iTransType state.pd state.day)
    return { state with day, dayFee := 0, bGotDayInfo := true }

/-- The number of whole 24-hour blocks that are left. -/
def blocksLeft (state : FeeState) : ℤ :=
  if state.day.b24HourBlock then (diffhour state.pt stay.currentTime).tdiv 24 else 0

/-- The zone search: the zone in front of the first boundary that lies ahead.  If none
does, the zone of the turn before stays selected. -/
def searchZone (state : FeeState) : ℕ :=
  ((List.range (state.day.maxZone + 1)).find? fun k =>
    decide (diffmin state.pt (state.day.zones (k + 1)).zoneTime > 0)).getD state.currentZone

/-- Charge a 24-hour block, or select a zone. -/
def selectZone (state : FeeState) : Except Exit FeeState :=
  if stay.blocksLeft state > 0 then
    .ok { state with
      s24HourCharges := state.s24HourCharges + state.day.s24HourFee
      pt := state.pt + 86400
      currentRateType := 0
      bNoGT := true }
  else
    let zone := state.day.zones (searchZone state)
    if zone.rateType < 1 ∨ zone.rateType > 2 then .error (.ended (.returned (-3)))
    else
      .ok { state with
        currentZone := searchZone state
        currentRateType := zone.rateType
        currentMin := zone.zoneMin
        currentMax := zone.zoneMax }

/-- "check grace time" -/
def checkGrace (state : FeeState) : Except Exit FeeState :=
  if state.bNoGT = false ∧ 0 < state.zone.gt ∧ stay.minutesLeft state.pt ≤ state.zone.gt then
    .error (.ended (.returned 0))
  else .ok { state with bNoGT := true }

/-- The fee of the selected zone, before its limits. -/
def zoneFee (fuel : ℕ) (state : FeeState) : Option (Except Exit (FeeState × ℚ)) :=
  if state.currentRateType = 1 then stay.hourly fuel state
  else if state.currentRateType = 2 then some (.ok (stay.perEntry state))
  else some (.ok (state, 0))

/-- Add the zone fee to the day fee. -/
def addZoneFee (state : FeeState) (zoneFee : ℚ) : FeeState :=
  { state with dayFee := state.dayFee + limitFee state.currentMin state.currentMax zoneFee }

/-- Settle the day when the current point has left it. -/
def settleDay (state : FeeState) : FeeState :=
  if stay.tables.timeZone.day state.pt > state.pd then
    { state with
      charge := state.charge + limitFee state.day.dayMin state.day.dayMax state.dayFee
      dayFee := 0
      bGotDayInfo := false
      pd := state.pd + 1 }
  else state

/-- The end of a turn. -/
def settle (state : FeeState) (zoneFee : ℚ) : Except Exit FeeState :=
  let state := stay.settleDay (addZoneFee state zoneFee)
  if stay.minutesLeft state.pt ≤ 0 then .error (.broke state) else .ok state

/-- What a turn does before it comes to the fee of the zone. -/
def enterZone (state : FeeState) : Except Exit FeeState :=
  if stay.tables.timeZone.day stay.currentTime < state.pd then .error (.broke state)
  else do
    let state ← stay.getDay state
    let state ← stay.selectZone state
    stay.checkGrace state

/-- One turn of the outer loop. -/
def turn (fuel : ℕ) (state : FeeState) : Option (Except Exit FeeState) :=
  match stay.enterZone state with
  | .error exit => some (.error exit)
  | .ok state =>
      match stay.zoneFee fuel state with
      | none => none
      | some (.error exit) => some (.error exit)
      | some (.ok (state, zoneFee)) => some (stay.settle state zoneFee)

/-! ## The whole calculation -/

/-- `RoundIt` -/
def roundIt (value : ℚ) (tariffFeeMode : ℤ) : ℚ :=
  if tariffFeeMode = 1 then ⌈value⌉
  else if tariffFeeMode = 2 then ⌊value⌋
  else if tariffFeeMode = 3 then roundHalfAway value
  else value

/-- "day fee have not add into charge" -/
def finalCharge (state : FeeState) : ℚ :=
  if state.dayFee > 0 then
    state.charge + limitFee state.day.dayMin state.day.dayMax state.dayFee
  else state.charge

/-- The combination with the 24-hour blocks. -/
def addBlocks (state : FeeState) (charge : ℚ) : ℚ :=
  if state.day.b24HourBlock then
    state.s24HourCharges +
      if charge > state.day.s24HourFee then (state.day.s24HourFee : ℚ) else charge
  else charge

/-- The code behind the loop. -/
def total (state : FeeState) : ℚ :=
  let charge := addBlocks state (finalCharge state)
  let mode := stay.tables.paras.giTariffFeeMode
  if mode > 0 then roundIt charge mode / 100 else charge

/-- The value of the calculation, `none` for an exception. -/
def value : Exit → Option ℚ
  | .broke state => some (stay.total state)
  | .ended (.returned value) => some value
  | .ended .threw => none

/-- The state in front of the loop.  What the source leaves uninitialised is zero here. -/
def start (bNoGT : Bool) : FeeState where
  pd := stay.tables.timeZone.day stay.entryTime
  pt := stay.entryTime
  bGotDayInfo := false
  day :=
    { zones := fun _ => {}, maxZone := 0, dayMin := 0, dayMax := 0, iZoneCutoff := 0,
      b24HourBlock := false, s24HourFee := 0, zt := stay.tables.now }
  dayFee := 0
  charge := 0
  bFirstFreed := false
  bNoGT := bNoGT
  bMCPerDayChecked := false
  s24HourCharges := 0
  currentZone := 0
  currentRateType := 0
  currentMin := 0
  currentMax := 0

/-- The outer loop. -/
def run (fuel : ℕ) (bNoGT : Bool) : Option Exit := loop (stay.turn fuel) fuel (stay.start bNoGT)

end Stay

/-- The pay time as the loop sees it: one minute on when its second is the later one. -/
def roundUp (entryTime payDT : ℤ) : ℤ :=
  if second entryTime < second payDT then payDT + 60 else payDT

/-- The stay between two times. -/
def Tables.stay (tables : Tables) (entryTime payDT iTransType : ℤ) : Stay :=
  ⟨tables, iTransType, entryTime, roundUp entryTime payDT⟩

/-- `CalFeeRAM2GR` for two times that have been read, while the operation module is
running.  The outer option is for the fuel, the inner one for an exception. -/
def calFeeRAM2GR (tables : Tables) (fuel : ℕ) (entryTime payDT iTransType : ℤ) (bNoGT : Bool) :
    Option (Option ℚ) :=
  if diffmin entryTime payDT < 0 then some (some 0)
  else
    let stay := tables.stay entryTime payDT iTransType
    (stay.run fuel bNoGT).map stay.value

end LinuxPBS.Tariff

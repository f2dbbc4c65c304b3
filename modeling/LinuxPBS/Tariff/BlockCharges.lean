import Mathlib.Algebra.Order.Floor.Ring
import Mathlib.Algebra.Order.BigOperators.Group.List
import Mathlib.Algebra.BigOperators.Ring.Finset
import LinuxPBS.Tariff.Amounts

/-!
# The charges for 24-hour blocks

On a day in 24-hour-block mode the calculation charges `whole_day_min` for every
24 hours that lie ahead.  It keeps these charges apart, in `s24HourCharges`, and
adds them to the fee behind the loop.  The ledger is the account of a run as it
should come out:

```text
blocks        whole_day_min for every block that was charged
wholeBlocks   the same in whole dollars, as s24HourFee is an int
dayCharges    what was settled for days that are not in block mode
partCharges   what was settled for days that are, besides the blocks
```

The code behind the loop goes by the mode of the last day that was loaded.  If
that day is not in block mode, the blocks are left out; if it is, everything but
the blocks is cut at that day's `s24HourFee`.  So the ledger is covered by the
fee exactly when `Ledger.Covered` holds, in particular for a stay whose days are
all in one mode.
-/

namespace LinuxPBS.Tariff

open Loop CxxText

/-! ## The ledger -/

/-- The account of a run. -/
structure Ledger where
  blocks : ℚ
  wholeBlocks : ℤ
  dayCharges : ℚ
  partCharges : ℚ

/-- What the code behind the loop makes of a ledger, by the mode of the last day that was
loaded and by its `s24HourFee`. -/
def Ledger.fee (ledger : Ledger) (lastIsBlock : Bool) (lastFee : ℤ) : ℚ :=
  if lastIsBlock then ledger.wholeBlocks + min (ledger.dayCharges + ledger.partCharges) lastFee
  else ledger.dayCharges + ledger.partCharges

/-- When the fee covers the blocks and the charges of the other days. -/
def Ledger.Covered (ledger : Ledger) (lastIsBlock : Bool) (lastFee : ℤ) : Prop :=
  if lastIsBlock then
    ledger.dayCharges + (ledger.blocks - ledger.wholeBlocks) ≤
      min (ledger.dayCharges + ledger.partCharges) lastFee
  else ledger.blocks ≤ ledger.partCharges

theorem Ledger.covered_iff (ledger : Ledger) (lastIsBlock : Bool) (lastFee : ℤ) :
    ledger.blocks + ledger.dayCharges ≤ ledger.fee lastIsBlock lastFee ↔
      ledger.Covered lastIsBlock lastFee := by
  unfold Ledger.fee Ledger.Covered
  cases lastIsBlock with
  | true =>
      simp only [if_true]
      constructor <;> intro hle <;> linarith
  | false =>
      simp only [Bool.false_eq_true, if_false]
      constructor <;> intro hle <;> linarith

namespace Stay

variable {stay : Stay} {state next : FeeState} {fuel : ℕ}

/-- The turn that begins in `state` charges a block. -/
def chargesBlock (stay : Stay) (state : FeeState) : Bool :=
  match stay.getDay state with
  | .ok loaded =>
      decide (state.pd ≤ stay.tables.timeZone.day stay.currentTime ∧ 0 < stay.blocksLeft loaded)
  | .error _ => false

/-- What the turn that begins in `state` charges for a block. -/
def blockFee (stay : Stay) (state : FeeState) : ℚ :=
  if stay.chargesBlock state then stay.tables.wholeDayMin stay.iTransType state.pd else 0

/-- What the turn that begins in `state` settles for the day `PD`. -/
def settled (stay : Stay) (fuel : ℕ) (state : FeeState) : ℚ :=
  match stay.turn fuel state with
  | some (.ok next) => next.charge - state.charge
  | some (.error (.broke last)) => finalCharge last - state.charge
  | _ => 0

/-- The mode of the day in hand. -/
def isBlockMode (stay : Stay) (state : FeeState) : Bool :=
  stay.tables.isBlockMode stay.iTransType state.pd

/-- The states at the head of the outer loop. -/
def feeHeads (stay : Stay) (fuel : ℕ) (bNoGT : Bool) : List FeeState :=
  heads (stay.turn fuel) fuel (stay.start bNoGT)

/-- The account of a run. -/
def ledger (stay : Stay) (fuel : ℕ) (bNoGT : Bool) : Ledger where
  blocks := ((stay.feeHeads fuel bNoGT).map stay.blockFee).sum
  wholeBlocks := ((stay.feeHeads fuel bNoGT).map fun state => ⌊stay.blockFee state⌋).sum
  dayCharges := ((stay.feeHeads fuel bNoGT).map fun state =>
    if stay.isBlockMode state then 0 else stay.settled fuel state).sum
  partCharges := ((stay.feeHeads fuel bNoGT).map fun state =>
    if stay.isBlockMode state then stay.settled fuel state else 0).sum

/-- The last day that was loaded: that of the last turn, but for a turn that only finds the
pay time behind. -/
def lastDay (stay : Stay) (fuel : ℕ) (bNoGT : Bool) : ℤ :=
  min (((stay.feeHeads fuel bNoGT).getLastD (stay.start bNoGT)).pd)
    (stay.tables.timeZone.day stay.currentTime)

/-! ## The mode in hand -/

/-- The arrays are in the mode of the day `date`. -/
def InMode (stay : Stay) (date : ℤ) (day : Day) : Prop :=
  date ≤ stay.tables.timeZone.day stay.currentTime ∧
    day.b24HourBlock = stay.tables.isBlockMode stay.iTransType date ∧
    (stay.tables.isBlockMode stay.iTransType date = true →
      day.s24HourFee = ⌊stay.tables.wholeDayMin stay.iTransType date⌋)

/-- The mode in hand is that of the day `PD`, or that of the day before when `PD` is not
loaded yet; the first day is never behind the pay time. -/
structure Moded (stay : Stay) (state : FeeState) : Prop where
  entry_le : stay.tables.timeZone.day stay.entryTime ≤ state.pd
  loaded : state.bGotDayInfo = true → stay.InMode state.pd state.day
  settled : state.bGotDayInfo = false → state.dayFee = 0 ∧
    (state.pd ≤ stay.tables.timeZone.day stay.currentTime ∨ stay.InMode (state.pd - 1) state.day)

/-- What a turn has done to the charges when it comes to the fee of the zone. -/
theorem Moded.enterZone (hmoded : stay.Moded state) (henter : stay.enterZone state = .ok next) :
    next.pd = state.pd ∧ next.bGotDayInfo = true ∧ stay.InMode next.pd next.day ∧
      next.charge = state.charge ∧
      next.s24HourCharges = state.s24HourCharges + ⌊stay.blockFee state⌋ := by
  obtain ⟨hpd, loaded, hget, selected, hselect, rfl⟩ := enterZone_eq_ok henter
  have hloaded : loaded.pd = state.pd ∧ loaded.bGotDayInfo = true ∧
      stay.InMode state.pd loaded.day ∧ loaded.charge = state.charge ∧
      loaded.s24HourCharges = state.s24HourCharges := by
    obtain ⟨hgot, rfl⟩ | ⟨-, day, hday, rfl⟩ := getDay_eq_ok hget
    · exact ⟨rfl, hgot, hmoded.loaded hgot, rfl, rfl⟩
    · exact ⟨rfl, rfl, ⟨hpd, hday.b24HourBlock_eq⟩, rfl, rfl⟩
  obtain ⟨hsame, hgot, hmode, hcharge, hblocks⟩ := hloaded
  have hfee : stay.blockFee state = if 0 < stay.blocksLeft loaded then
      stay.tables.wholeDayMin stay.iTransType state.pd else 0 := by
    simp only [blockFee, chargesBlock, hget, hpd, true_and, decide_eq_true_eq]
  obtain ⟨hleft, rfl⟩ | ⟨hnone, zone, -, -, -, rfl⟩ := selectZone_eq_ok hselect
  · -- only a day in block mode has blocks to charge
    have hon : stay.tables.isBlockMode stay.iTransType state.pd = true := by
      rw [← hmode.2.1]
      by_contra hoff
      simp [blocksLeft, hoff] at hleft
    refine ⟨hsame, hgot, hsame.symm ▸ hmode, hcharge, ?_⟩
    simp only [hblocks, hfee, if_pos hleft, hmode.2.2 hon]
  · refine ⟨hsame, hgot, hsame.symm ▸ hmode, hcharge, ?_⟩
    simp only [hblocks, hfee, if_neg hnone, Int.floor_zero, add_zero]

/-- A turn that goes round again. -/
theorem Moded.turn (hmoded : stay.Moded state) (hturn : stay.turn fuel state = some (.ok next)) :
    stay.Moded next ∧
      next.s24HourCharges = state.s24HourCharges + ⌊stay.blockFee state⌋ := by
  obtain ⟨entered, henter, moved, fee, hfee, hsettle⟩ := turn_eq_ok hturn
  obtain ⟨hpd, hgot, hmode, -, hblocks⟩ := hmoded.enterZone henter
  obtain ⟨pt, bFirstFreed, bMCPerDayChecked, rfl⟩ := zoneFee_moved hfee
  obtain ⟨rfl, -⟩ := settle_eq_ok hsettle
  have hle : stay.tables.timeZone.day stay.entryTime ≤ entered.pd := hpd ▸ hmoded.entry_le
  unfold settleDay
  split
  · refine ⟨⟨hle.trans (by simp [addZoneFee]), (fun hgot => by cases hgot),
      fun _ => ⟨rfl, Or.inr ?_⟩⟩, hblocks⟩
    simpa [addZoneFee] using hmode
  · refine ⟨⟨hle, fun _ => hmode, fun hnot => ?_⟩, hblocks⟩
    exact absurd (hgot.symm.trans hnot) (by decide)

/-- A turn that finds the pay time behind charges no block. -/
theorem blockFee_eq_zero (hbehind : stay.tables.timeZone.day stay.currentTime < state.pd) :
    stay.blockFee state = 0 := by
  have hcharges : stay.chargesBlock state = false := by
    unfold chargesBlock
    split
    · exact decide_eq_false fun hboth => absurd hboth.1 (not_le.mpr hbehind)
    · rfl
  simp only [blockFee, hcharges, Bool.false_eq_true, if_false]

/-- A turn that leaves the loop by a `break`: the mode is that of the last day loaded. -/
theorem Moded.broke {last : FeeState} (hmoded : stay.Moded state)
    (hturn : stay.turn fuel state = some (.error (.broke last))) :
    last.s24HourCharges = state.s24HourCharges + ⌊stay.blockFee state⌋ ∧
      stay.InMode (min state.pd (stay.tables.timeZone.day stay.currentTime)) last.day := by
  have hentered : ∀ entered, stay.enterZone state = .ok entered →
      entered.s24HourCharges = state.s24HourCharges + ⌊stay.blockFee state⌋ ∧
        stay.InMode (min state.pd (stay.tables.timeZone.day stay.currentTime)) entered.day := by
    intro entered henter
    obtain ⟨hpd, -, hmode, -, hblocks⟩ := hmoded.enterZone henter
    rw [min_eq_left (hpd ▸ hmode.1)]
    exact ⟨hblocks, hpd ▸ hmode⟩
  obtain henter | ⟨entered, henter, hfee | ⟨moved, fee, hfee, hsettle⟩⟩ := turn_eq_error hturn
  · obtain ⟨hbehind, hexit⟩ | ⟨-, ⟨_, hexit, -⟩ | ⟨_, _, _, _, _, _, _, hexit⟩⟩ :=
      enterZone_eq_error henter <;> cases hexit
    -- the day PD is not loaded, and the day before is the last one
    have hfee := blockFee_eq_zero hbehind
    have hmode : stay.InMode (state.pd - 1) state.day := by
      cases hgot : state.bGotDayInfo with
      | true =>
          have := (hmoded.loaded hgot).1
          omega
      | false =>
          rcases (hmoded.settled hgot).2 with hle | hmode
          · omega
          · exact hmode
    have hlast : min state.pd (stay.tables.timeZone.day stay.currentTime) = state.pd - 1 := by
      have := hmode.1
      omega
    rw [hfee, hlast, Int.floor_zero, add_zero]
    exact ⟨rfl, hmode⟩
  · obtain ⟨-, ⟨_, hexit, -⟩ | ⟨-, hexit⟩ | ⟨-, -, hexit⟩⟩ := zoneFee_eq_error hfee <;>
      cases hexit
    · exact hentered _ henter
    · exact hentered entered henter
  · obtain ⟨pt, bFirstFreed, bMCPerDayChecked, rfl⟩ := zoneFee_moved hfee
    cases (settle_eq_error hsettle).1
    unfold settleDay
    split
    · exact hentered entered henter
    · exact hentered entered henter

/-! ## The fee and the ledger -/

theorem moded_start (hentry : stay.tables.timeZone.day stay.entryTime ≤
    stay.tables.timeZone.day stay.currentTime) (bNoGT : Bool) :
    stay.Moded (stay.start bNoGT) where
  entry_le := le_rfl
  loaded := fun hgot => by cases hgot
  settled := fun _ => ⟨rfl, Or.inl hentry⟩

/-- What is charged besides the blocks. -/
theorem finalCharge_eq_ledger {bNoGT : Bool} {last : FeeState}
    (hrun : stay.run fuel bNoGT = some (.broke last)) :
    finalCharge last =
      (stay.ledger fuel bNoGT).dayCharges + (stay.ledger fuel bNoGT).partCharges := by
  have hsum : finalCharge last =
      0 + ((stay.feeHeads fuel bNoGT).map (stay.settled fuel)).sum :=
    loop_sum (fun _ => True) (·.charge) (stay.settled fuel)
      (fun state next _ hturn => ⟨trivial, by simp only [settled, hturn]; ring⟩)
      (fun state _ hturn => by simp only [settled, hturn]; ring) trivial hrun
  rw [hsum, zero_add]
  unfold ledger feeHeads
  rw [← List.sum_map_add]
  congr 2
  funext state
  split_ifs <;> simp

/-- A run that is left by a `break` charges what the code behind the loop makes of its
ledger. -/
theorem total_eq_fee (hmode : stay.tables.paras.giTariffFeeMode = 0)
    (hentry : stay.tables.timeZone.day stay.entryTime ≤ stay.tables.timeZone.day stay.currentTime)
    {bNoGT : Bool} {last : FeeState} (hrun : stay.run fuel bNoGT = some (.broke last)) :
    stay.total last = (stay.ledger fuel bNoGT).fee
      (stay.tables.isBlockMode stay.iTransType (stay.lastDay fuel bNoGT))
      ⌊stay.tables.wholeDayMin stay.iTransType (stay.lastDay fuel bNoGT)⌋ := by
  have hstart := moded_start hentry bNoGT
  -- the blocks
  have hblocks : last.s24HourCharges = (stay.ledger fuel bNoGT).wholeBlocks := by
    have hsum : last.s24HourCharges = 0 + (stay.ledger fuel bNoGT).wholeBlocks :=
      loop_sum stay.Moded (·.s24HourCharges) (fun state => ⌊stay.blockFee state⌋)
        (fun state next hmoded hturn => hmoded.turn hturn)
        (fun state hmoded hturn => (hmoded.broke hturn).1) hstart hrun
    rw [hsum, zero_add]
  -- the charges of the days
  have hdays := finalCharge_eq_ledger hrun
  -- the mode of the last day
  have hlast : stay.InMode (stay.lastDay fuel bNoGT) last.day := by
    obtain ⟨earlier, head, hheads, hturn⟩ := loop_last hrun
    have hall : ∀ head ∈ heads (stay.turn fuel) fuel (stay.start bNoGT), stay.Moded head :=
      heads_invariant stay.Moded (fun _ _ hmoded hturn => (hmoded.turn hturn).1) hstart
    have hmoded : stay.Moded head := by
      refine hall head ?_
      rw [hheads]
      exact List.mem_append_right _ (List.mem_singleton_self head)
    have hlastDay : stay.lastDay fuel bNoGT =
        min head.pd (stay.tables.timeZone.day stay.currentTime) := by
      unfold lastDay feeHeads
      rw [hheads, List.getLastD_concat]
    rw [hlastDay]
    exact (hmoded.broke hturn).2
  simp only [total, addBlocks, hmode, lt_irrefl, if_false, gt_iff_lt, hdays, hblocks,
    Ledger.fee, hlast.2.1]
  split_ifs with hon hcut
  · rw [hlast.2.2 hon] at hcut ⊢
    rw [min_eq_right hcut.le]
  · rw [hlast.2.2 hon] at hcut
    rw [min_eq_left (not_lt.mp hcut)]
  · rfl

/-- The grace time ends the run in its first turn, and nothing has been charged. -/
theorem ledger_of_grace {bNoGT : Bool}
    (hrun : stay.run fuel bNoGT = some (.ended (.returned 0))) :
    stay.ledger fuel bNoGT = ⟨0, 0, 0, 0⟩ := by
  have hgraceOnly : ∀ state, stay.turn fuel state = some (.error (.ended (.returned 0))) →
      state.bNoGT = false ∧ stay.blockFee state = 0 := by
    intro state hturn
    obtain herror | ⟨-, -, loaded, hget, selected, hselect, hgrace, -⟩ := turn_eq_ended hturn
    · exact absurd (herror 0 rfl).neg (lt_irrefl 0)
    · obtain ⟨hfalse, hnone⟩ := bNoGT_of_selectZone hget hselect hgrace
      refine ⟨hfalse, ?_⟩
      simp [blockFee, chargesBlock, hget, hnone]
  obtain ⟨fuel', hfuel, hleft | ⟨next, hnext, hrest⟩⟩ := loop_eq_some hrun
  · have hheads : stay.feeHeads fuel bNoGT = [stay.start bNoGT] := by
      unfold feeHeads
      rw [hfuel] at hleft ⊢
      exact heads_succ_of_error hleft
    have hsettled : stay.settled fuel (stay.start bNoGT) = 0 := by
      simp only [settled, hleft]
    have hblock := (hgraceOnly _ hleft).2
    simp [ledger, hheads, hsettled, hblock]
  · -- a later turn has no grace time any more
    exfalso
    refine loop_invariant (fun state => state.bNoGT = true)
      (fun exit => exit ≠ .ended (.returned 0)) ?_ ?_ (bNoGT_of_turn hnext) hrest rfl
    · exact fun state next _ hturn => bNoGT_of_turn hturn
    · rintro state exit hgrace hturn rfl
      rw [(hgraceOnly state hturn).1] at hgrace
      cases hgrace

/-- Every head of a run in front of or on the day of the pay time; the others charge nothing. -/
theorem heads_spec (hentry : stay.tables.timeZone.day stay.entryTime ≤
    stay.tables.timeZone.day stay.currentTime) {bNoGT : Bool} :
    ∀ head ∈ stay.feeHeads fuel bNoGT, stay.tables.timeZone.day stay.entryTime ≤ head.pd ∧
      (stay.tables.timeZone.day stay.currentTime < head.pd →
        stay.blockFee head = 0 ∧ stay.settled fuel head = 0) := by
  intro head hhead
  have hall : ∀ head ∈ stay.feeHeads fuel bNoGT, stay.Moded head :=
    heads_invariant stay.Moded (fun _ _ hmoded hturn => (hmoded.turn hturn).1)
      (moded_start hentry bNoGT)
  have hmoded := hall head hhead
  refine ⟨hmoded.entry_le, fun hbehind => ⟨blockFee_eq_zero hbehind, ?_⟩⟩
  have hturn : stay.turn fuel head = some (.error (.broke head)) := by
    simp only [turn, Stay.enterZone, if_pos hbehind]
  have hfee : head.dayFee = 0 := by
    cases hgot : head.bGotDayInfo with
    | true => exact absurd (hmoded.loaded hgot).1 (not_le.mpr hbehind)
    | false => exact (hmoded.settled hgot).1
  simp only [settled, hturn, finalCharge, hfee, gt_iff_lt, lt_irrefl, if_false, sub_self]

/-- Only on a day in block mode a block is charged. -/
theorem isBlockMode_of_chargesBlock (hmoded : stay.Moded state)
    (hcharges : stay.chargesBlock state = true) : stay.isBlockMode state = true := by
  unfold chargesBlock at hcharges
  split at hcharges
  · rename_i loaded hget
    obtain ⟨hpd, hleft⟩ := of_decide_eq_true hcharges
    have hmode : loaded.day.b24HourBlock = stay.isBlockMode state := by
      obtain ⟨hgot, rfl⟩ | ⟨-, day, hday, rfl⟩ := getDay_eq_ok hget
      · exact (hmoded.loaded hgot).2.1
      · exact hday.b24HourBlock_eq.1
    rw [← hmode]
    by_contra hoff
    simp [blocksLeft, hoff] at hleft
  · cases hcharges

section OneMode

variable (hentry : stay.tables.timeZone.day stay.entryTime ≤
  stay.tables.timeZone.day stay.currentTime) (bNoGT : Bool)

include hentry

theorem lastDay_bounds (fuel : ℕ) (bNoGT : Bool) :
    stay.tables.timeZone.day stay.entryTime ≤ stay.lastDay fuel bNoGT ∧
      stay.lastDay fuel bNoGT ≤ stay.tables.timeZone.day stay.currentTime := by
  refine ⟨le_min ?_ hentry, min_le_right _ _⟩
  have hmem : (stay.feeHeads fuel bNoGT).getLastD (stay.start bNoGT) ∈
      stay.start bNoGT :: stay.feeHeads fuel bNoGT := List.getLastD_mem_cons
  rcases List.mem_cons.mp hmem with hstart | hhead
  · rw [hstart]
    exact le_rfl
  · exact (heads_spec hentry _ hhead).1

/-- Without block days there are no blocks. -/
theorem covered_of_noBlocks (hmode : ∀ day, stay.tables.timeZone.day stay.entryTime ≤ day →
    day ≤ stay.tables.timeZone.day stay.currentTime →
    stay.tables.isBlockMode stay.iTransType day = false) :
    (stay.ledger fuel bNoGT).Covered
      (stay.tables.isBlockMode stay.iTransType (stay.lastDay fuel bNoGT))
      ⌊stay.tables.wholeDayMin stay.iTransType (stay.lastDay fuel bNoGT)⌋ := by
  obtain ⟨hfirst, hlast⟩ := lastDay_bounds hentry fuel bNoGT
  have hall : ∀ head ∈ stay.feeHeads fuel bNoGT, stay.Moded head :=
    heads_invariant stay.Moded (fun _ _ hmoded hturn => (hmoded.turn hturn).1)
      (moded_start hentry bNoGT)
  have hzero : ∀ head ∈ stay.feeHeads fuel bNoGT, stay.blockFee head = 0 ∧
      (if stay.isBlockMode head then stay.settled fuel head else 0) = 0 := by
    intro head hhead
    obtain ⟨hle, hbehind⟩ := heads_spec hentry head hhead
    rcases le_or_gt head.pd (stay.tables.timeZone.day stay.currentTime) with hpd | hpd
    · have hoff : stay.isBlockMode head = false := hmode _ hle hpd
      refine ⟨?_, by rw [hoff]; rfl⟩
      unfold blockFee
      rw [if_neg fun hcharges => ?_]
      rw [isBlockMode_of_chargesBlock (hall head hhead) hcharges] at hoff
      cases hoff
    · obtain ⟨hblock, hsettled⟩ := hbehind hpd
      exact ⟨hblock, by rw [hsettled, ite_self]⟩
  have hblocks : (stay.ledger fuel bNoGT).blocks = 0 := by
    refine List.sum_eq_zero fun amount hamount => ?_
    obtain ⟨head, hhead, rfl⟩ := List.mem_map.mp hamount
    exact (hzero head hhead).1
  have hparts : (stay.ledger fuel bNoGT).partCharges = 0 := by
    refine List.sum_eq_zero fun amount hamount => ?_
    obtain ⟨head, hhead, rfl⟩ := List.mem_map.mp hamount
    exact (hzero head hhead).2
  rw [hmode _ hfirst hlast]
  simp only [Ledger.Covered, Bool.false_eq_true, if_false, hblocks, hparts, le_refl]

/-- With block days of whole dollars only, nothing is cut from the blocks. -/
theorem covered_of_wholeBlocks (hnonneg : stay.tables.NonNegative stay.iTransType)
    (hmode : ∀ day, stay.tables.timeZone.day stay.entryTime ≤ day →
      day ≤ stay.tables.timeZone.day stay.currentTime →
      stay.tables.isBlockMode stay.iTransType day = true ∧
        (⌊stay.tables.wholeDayMin stay.iTransType day⌋ : ℚ) =
          stay.tables.wholeDayMin stay.iTransType day)
    {last : FeeState} (hrun : stay.run fuel bNoGT = some (.broke last)) :
    (stay.ledger fuel bNoGT).Covered
      (stay.tables.isBlockMode stay.iTransType (stay.lastDay fuel bNoGT))
      ⌊stay.tables.wholeDayMin stay.iTransType (stay.lastDay fuel bNoGT)⌋ := by
  obtain ⟨hfirst, hlast⟩ := lastDay_bounds hentry fuel bNoGT
  have hon := (hmode _ hfirst hlast).1
  have hwhole : ∀ head ∈ stay.feeHeads fuel bNoGT,
      (⌊stay.blockFee head⌋ : ℚ) = stay.blockFee head ∧
        (if stay.isBlockMode head then 0 else stay.settled fuel head) = 0 := by
    intro head hhead
    obtain ⟨hle, hbehind⟩ := heads_spec hentry head hhead
    rcases le_or_gt head.pd (stay.tables.timeZone.day stay.currentTime) with hpd | hpd
    · obtain ⟨hblock, hdollars⟩ := hmode _ hle hpd
      refine ⟨?_, if_pos hblock⟩
      unfold blockFee
      split
      · exact hdollars
      · simp
    · obtain ⟨hblock, hsettled⟩ := hbehind hpd
      exact ⟨by simp [hblock], by rw [hsettled, ite_self]⟩
  have hblocks : ((stay.ledger fuel bNoGT).wholeBlocks : ℚ) = (stay.ledger fuel bNoGT).blocks := by
    unfold ledger
    simp only
    rw [Int.cast_list_sum, List.map_map]
    exact congrArg List.sum (List.map_congr_left fun head hhead => (hwhole head hhead).1)
  have hdays : (stay.ledger fuel bNoGT).dayCharges = 0 := by
    refine List.sum_eq_zero fun amount hamount => ?_
    obtain ⟨head, hhead, rfl⟩ := List.mem_map.mp hamount
    exact (hwhole head hhead).2
  have hcharged : 0 ≤ (stay.ledger fuel bNoGT).partCharges := by
    have howing : Owing last := by
      refine loop_invariant Owing (fun exit => ∀ last, exit = .broke last → Owing last) ?_ ?_
        (owing_start bNoGT) hrun last rfl
      · exact fun state next howing hturn => (howing.turn hnonneg hturn).1
      · rintro state _ howing hturn last rfl
        exact (howing.broke hnonneg hturn).1
    have hfinal := finalCharge_eq_ledger hrun
    rw [hdays, zero_add] at hfinal
    exact hfinal ▸ howing.finalCharge_nonneg
  have hlastFee : 0 ≤ ⌊stay.tables.wholeDayMin stay.iTransType (stay.lastDay fuel bNoGT)⌋ :=
    Int.floor_nonneg.mpr (Tables.wholeDayMin_pos hon).le
  rw [hon]
  simp only [Ledger.Covered, if_true, hdays, hblocks, sub_self, add_zero, zero_add, le_min_iff]
  exact ⟨hcharged, by exact_mod_cast hlastFee⟩

end OneMode

end Stay

/-! ## The calculation -/

/-- The account of a calculation; a pay time before the entry time comes to no run. -/
def Tables.ledger (tables : Tables) (fuel : ℕ) (entryTime payDT iTransType : ℤ) (bNoGT : Bool) :
    Ledger :=
  if diffmin entryTime payDT < 0 then ⟨0, 0, 0, 0⟩
  else (tables.stay entryTime payDT iTransType).ledger fuel bNoGT

/-- The last day a calculation has loaded. -/
def Tables.lastDay (tables : Tables) (fuel : ℕ) (entryTime payDT iTransType : ℤ) (bNoGT : Bool) :
    ℤ :=
  (tables.stay entryTime payDT iTransType).lastDay fuel bNoGT

/-- All days of a stay are in one mode: none is in block mode, or all are, for whole dollars
and with amounts of at least 0. -/
def Tables.OneMode (tables : Tables) (entryTime payDT iTransType : ℤ) : Prop :=
  (∀ day, tables.timeZone.day entryTime ≤ day →
      day ≤ tables.timeZone.day (roundUp entryTime payDT) →
      tables.isBlockMode iTransType day = false) ∨
    (tables.NonNegative iTransType ∧
      ∀ day, tables.timeZone.day entryTime ≤ day →
        day ≤ tables.timeZone.day (roundUp entryTime payDT) →
        tables.isBlockMode iTransType day = true ∧
          (⌊tables.wholeDayMin iTransType day⌋ : ℚ) = tables.wholeDayMin iTransType day)

/-- The ledger of a calculation is covered under the mode of the last day it has loaded. -/
def Tables.LedgerCovered (tables : Tables) (fuel : ℕ) (entryTime payDT iTransType : ℤ)
    (bNoGT : Bool) : Prop :=
  (tables.ledger fuel entryTime payDT iTransType bNoGT).Covered
    (tables.isBlockMode iTransType (tables.lastDay fuel entryTime payDT iTransType bNoGT))
    ⌊tables.wholeDayMin iTransType (tables.lastDay fuel entryTime payDT iTransType bNoGT)⌋

section

variable {tables : Tables} {fuel : ℕ} {entryTime payDT iTransType : ℤ} {bNoGT : Bool} {fee : ℚ}

theorem ledgerCovered_of_zero
    (hledger : tables.ledger fuel entryTime payDT iTransType bNoGT = ⟨0, 0, 0, 0⟩) :
    tables.LedgerCovered fuel entryTime payDT iTransType bNoGT := by
  unfold Tables.LedgerCovered Ledger.Covered
  rw [hledger]
  split
  · rename_i hon
    simpa using Int.floor_nonneg.mpr (Tables.wholeDayMin_pos hon).le
  · exact le_rfl

/-- A calculation that ends without an error has an empty ledger and no fee, or was left by a
`break`. -/
theorem ledger_cases (hfee : calFeeRAM2GR tables fuel entryTime payDT iTransType bNoGT =
    some (some fee)) (hcode : ¬ IsErrorCode fee) :
    (tables.ledger fuel entryTime payDT iTransType bNoGT = ⟨0, 0, 0, 0⟩ ∧ fee = 0) ∨
      (¬ diffmin entryTime payDT < 0 ∧ ∃ last,
        (tables.stay entryTime payDT iTransType).run fuel bNoGT = some (.broke last) ∧
          fee = (tables.stay entryTime payDT iTransType).total last) := by
  simp only [calFeeRAM2GR] at hfee
  split at hfee
  · rename_i hpay
    exact Or.inl ⟨if_pos hpay, (Option.some.inj (Option.some.inj hfee)).symm⟩
  · rename_i hpay
    obtain ⟨exit, hrun, hvalue⟩ := Option.map_eq_some_iff.mp hfee
    cases exit with
    | broke last => exact Or.inr ⟨hpay, last, hrun, (Option.some.inj hvalue).symm⟩
    | ended ending =>
        cases ending with
        | threw => cases hvalue
        | returned value =>
            obtain rfl := Option.some.inj hvalue
            have hgrace : value = 0 := by
              refine loop_invariant (fun _ => True)
                (fun exit => exit = .ended (.returned value) → value = 0)
                (fun _ _ _ _ => trivial) ?_ trivial hrun rfl
              rintro state _ - hturn rfl
              obtain herror | ⟨hzero, -⟩ := Stay.turn_eq_ended hturn
              · exact absurd (herror value rfl) hcode
              · exact Ending.returned.inj hzero
            rw [hgrace] at hrun
            exact Or.inl ⟨(if_neg hpay).trans (Stay.ledger_of_grace hrun), hgrace⟩

end

/-- One hourly zone all day, for a dollar an hour. -/
def hourlyRow : TariffStruct := .plain [.plain "00:00:00" "00:00:00" "1" "60" "1"]

/-- The same in 24-hour-block mode, for ten dollars a block. -/
def blockRow : TariffStruct := { hourlyRow with wholeDayMin := "10", wholeDayMax := "10" }

/-- Thursdays are in block mode. -/
def blockThursday : Tables :=
  { Tables.ofRow hourlyRow {} with
    gtariff := fun _ dayType => if dayType = 4 then blockRow else hourlyRow }

end LinuxPBS.Tariff

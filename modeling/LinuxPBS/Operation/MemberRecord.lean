import LinuxPBS.Operation.MemberRelease
import LinuxPBS.Operation.Remembered

/-!
# The record of an EZ-Link or AXS member

`PBSExit` opens the barrier for a member before anything is saved.

```text
PBSExit      redemption         CloseExitOperation, saved
             no redemption      the barrier is open, not saved yet
LoopAGone    not saved yet      CloseExitOperation, saved
```

Behind the release every quiet event leaves the member alone, so that one record is made of
it: at once, or when loop A ends.  The record is that of the AXS channel for both of them,
since `EZPayParking` has no `break` in `CloseExitOperation`.
-/

set_option synthInstance.maxSize 10000

namespace LinuxPBS.Operation

open Handler CxxText Common Db

/-! ## Members -/

/-- The two channels a member pays by. -/
inductive Channel
  | EZPay
  | AXS
  deriving DecidableEq

namespace Channel

/-- The status `CloseExitOperation` is given. -/
def status : Channel → TransType
  | .EZPay => .EZPayParking
  | .AXS => .AXSParking

/-- The card type of the records of a channel. -/
def iCardType : Channel → ℤ
  | .EZPay => 5
  | .AXS => 4

/-- The flag `PBSExit` sets. -/
def flagged (channel : Channel) (tExit : TExit) : TExit :=
  match channel with
  | .EZPay => { tExit with bPayByEZPay := true }
  | .AXS => { tExit with bPayByAXS := true }

/-- `HasEZpay` and `HasAXS` choose the channel. -/
def Chosen (channel : Channel) (s : Station) : Prop :=
  match channel with
  | .EZPay => s.env.hasEZpay s.asked s.tExit.sIUNo = 1
  | .AXS => s.env.hasEZpay s.asked s.tExit.sIUNo ≠ 1 ∧
      s.env.hasAXS (s.asked + 1) s.tExit.sIUNo = 1

instance (channel : Channel) (s : Station) : Decidable (channel.Chosen s) := by
  cases channel
  · exact inferInstanceAs (Decidable (_ = _))
  · exact inferInstanceAs (Decidable (_ ∧ _))

/-- How many answers it takes to choose the channel. -/
def asked : Channel → ℕ
  | .EZPay => 1
  | .AXS => 2

end Channel

/-- What the fee leaves to pay after the rebate and the redemption. -/
def remainder (tExit : TExit) : ℚ :=
  gfeeFormat (tExit.sFee - tExit.sRebateAmt - tExit.sRedeemAmt + tExit.sOweAmt)

/-- A vehicle that `PBSExit` releases as a member, and that nobody has been released for since
the lane was cleared. -/
structure Releasable (channel : Channel) (s : Station) : Prop where
  exit : s.gtStation.iType = .tiExit
  noEntry : s.tEntry.sIUTKNo = ""
  known : s.tExit.sIUNo.length = 10
  eps : s.tParas.giEPS ≠ 3
  chosen : channel.Chosen s
  amount : s.tExit.sPaidAmt = remainder s.tExit
  owes : 0 < s.tExit.sPaidAmt
  low : s.tExit.sPaidAmt ≤ 500
  unsaved : s.tProcess.gbsavedtrans = false
  unflagged : s.tExit.bPayByEZPay = false ∧ s.tExit.bPayByAXS = false

/-- One record has been saved since `s`, for the channel and with the amounts of the release. -/
def RecordedOnce (channel : Channel) (s t : Station) : Prop :=
  ∃ row, rowsOf t.calls = row :: rowsOf s.calls ∧ row.iCardType = channel.iCardType ∧
    row.sIUNo = s.tExit.sIUNo ∧ row.sFee = gfeeFormat s.tExit.sFee ∧
    row.sRedeemAmt = gfeeFormat s.tExit.sRedeemAmt ∧ row.sPaidAmt = s.tExit.sPaidAmt

/-! ## The row -/

/-- The row that `SaveExit` hands to the databases. -/
def savedRow (s : Station) : TExitTrans :=
  (insertExitTrans (s.env.centraldb s.asked) (s.env.localdb (s.asked + 1))
    { s.db with operation := some (sharedData { s with tExit := settleExit s }) }
    (settleExit s).toTExitTrans).2.1

/-- What a record is for, and its fee. -/
theorem insertExitTrans_member (centraldb localdb : ConnectionAnswers) (store : Db.State)
    {data : OperationSharedData} (hdata : store.operation = some data) (exitTrans : TExitTrans) :
    (insertExitTrans centraldb localdb store exitTrans).2.1.iCardType = exitTrans.iCardType ∧
      (insertExitTrans centraldb localdb store exitTrans).2.1.sFee = gfeeFormat exitTrans.sFee := by
  unfold insertExitTrans
  simp only [hdata]
  split
  · exact ⟨rfl, rfl⟩
  · unfold clampParkedTime
    split <;> exact ⟨rfl, rfl⟩

/-- A redemption that leaves something to pay is not cut. -/
theorem redeemedAmt_eq {tExit : TExit} (howes : 0 < remainder tExit) :
    redeemedAmt tExit = tExit.sRedeemAmt := by
  have hpos := pos_of_gfeeFormat_pos howes
  have hle : tExit.sRedeemAmt ≤ amountDue tExit := by
    unfold amountDue
    linarith
  exact if_neg (not_lt.mpr (gfeeFormat_mono hle))

/-- The row of an exit that owes something has its amounts. -/
theorem savedRow_spec {s : Station} (howes : 0 < remainder s.tExit) :
    (savedRow s).iCardType = s.tExit.iCardType ∧ (savedRow s).sIUNo = s.tExit.sIUNo ∧
      (savedRow s).sFee = gfeeFormat s.tExit.sFee ∧
      (savedRow s).sRedeemAmt = gfeeFormat s.tExit.sRedeemAmt ∧
      (savedRow s).sPaidAmt = remainder s.tExit := by
  have hdata : ({ s.db with
      operation := some (sharedData { s with tExit := settleExit s }) } : Db.State).operation =
        some (sharedData { s with tExit := settleExit s }) := rfl
  obtain ⟨htype, hfee⟩ := insertExitTrans_member (s.env.centraldb s.asked)
    (s.env.localdb (s.asked + 1)) _ hdata (settleExit s).toTExitTrans
  obtain ⟨hIU, hredeem⟩ := insertExitTrans_vehicle (s.env.centraldb s.asked)
    (s.env.localdb (s.asked + 1)) _ hdata (settleExit s).toTExitTrans
  obtain ⟨hpaid, -⟩ := insertExitTrans_amounts (s.env.centraldb s.asked)
    (s.env.localdb (s.asked + 1)) _ hdata (settleExit s).toTExitTrans
  have hredeemed : (settleExit s).sRedeemAmt = s.tExit.sRedeemAmt := redeemedAmt_eq howes
  have hsettled : (settleExit s).sPaidAmt = remainder s.tExit := by
    show gfeeFormat (s.tExit.sFee - s.tExit.sRebateAmt - redeemedAmt s.tExit + s.tExit.sOweAmt) = _
    rw [redeemedAmt_eq howes, remainder]
  refine ⟨htype, hIU, hfee, ?_, ?_⟩
  · exact hredeem.trans (congrArg gfeeFormat hredeemed)
  · refine hpaid.trans ((congrArg gfeeFormat hsettled).trans ?_)
    rw [remainder, gfeeFormat_gfeeFormat]

/-! ## Saving a member -/

/-- What follows the inserts of `SaveExit` leaves alone. -/
@[reducible] def closedView (s : Station) : List Call × TStationType × String × ℤ × String :=
  (s.calls, s.gtStation.iType, s.tEntry.sIUTKNo, s.tParas.giEPS, s.tExit.sIUNo)

instance (iRet : DBError) : Frames closedView (followUp iRet) := by
  unfold followUp takeAmounts
  dsimp only
  infer_instance

instance (iRet : DBError) : Frames closedView (reportExit iRet) := by
  unfold reportExit
  dsimp only
  infer_instance

instance : Frames closedView printReceipt := by
  unfold printReceipt
  infer_instance

theorem closedView_saveExit {s : Station} (hIU : s.tExit.sIUNo ≠ "") :
    closedView (after saveExit s) = (.insertexittrans (savedRow s) (exitAnswer s) :: s.calls,
      s.gtStation.iType, s.tEntry.sIUTKNo, s.tParas.giEPS, s.tExit.sIUNo) := by
  obtain ⟨s₁, hok, hview⟩ : ∃ s₁, insertexittrans { s with tExit := settleExit s } =
      .ok (exitAnswer s) s₁ ∧ closedView s₁ =
        (.insertexittrans (savedRow s) (exitAnswer s) :: s.calls,
          s.gtStation.iType, s.tEntry.sIUTKNo, s.tParas.giEPS, s.tExit.sIUNo) := ⟨_, rfl, rfl⟩
  have htail : Frames closedView (do
      let iRet ← followUp (exitAnswer s)
      reportExit iRet
      modify fun s => { s with tProcess.gbsavedtrans := true, tExit.gbPaid := true }
      if (← get).tExit.sPaidAmt = 0 then
        modify fun s => { s with
          tProcess.gsLastCardNo := s.tExit.sCardNo
          tProcess.gbLastPaidStatus := true }
      printReceipt) := inferInstance
  unfold saveExit
  rw [after_get_bind, if_neg hIU, after_modify_bind, after_bind_of_ok hok]
  exact (htail.frames s₁).trans hview

/-- One record has been made of the exit in `s`, and it says AXS. -/
structure ClosedAs (s t : Station) : Prop where
  saved : t.tProcess.gbsavedtrans = true
  parked : Parked t
  row : ∃ row, rowsOf t.calls = row :: rowsOf s.calls ∧ row.iCardType = 4 ∧
    row.sIUNo = s.tExit.sIUNo ∧ row.sFee = gfeeFormat s.tExit.sFee ∧
    row.sRedeemAmt = gfeeFormat s.tExit.sRedeemAmt ∧ row.sPaidAmt = remainder s.tExit

/-- What the record is made of. -/
@[reducible] def rowView (s : Station) : List TExitTrans × String × ℚ × ℚ × ℚ × ℚ :=
  (rowsOf s.calls, s.tExit.sIUNo, s.tExit.sFee, s.tExit.sRebateAmt, s.tExit.sRedeemAmt,
    s.tExit.sOweAmt)

theorem closedAs_saveExit {s t : Station} (hview : rowView t = rowView s) (ht : Parked t)
    (hAXS : t.tExit.iCardType = 4) (howes : 0 < remainder s.tExit) :
    ClosedAs s (after saveExit t) := by
  simp only [rowView, Prod.mk.injEq] at hview
  obtain ⟨hrows, hIU, hfee, hrebate, hredeem, howe⟩ := hview
  have hleft : remainder t.tExit = remainder s.tExit := by
    simp only [remainder, hfee, hrebate, hredeem, howe]
  obtain ⟨htype, hrowIU, hrowFee, hrowRedeem, hrowPaid⟩ := savedRow_spec (hleft ▸ howes)
  obtain ⟨_, _, -, -, -, hsaved⟩ := after_saveExit ht.known
  have hlane := hsaved.lane_eq
  simp only [lane, Lane.mk.injEq] at hlane
  have hclosed := closedView_saveExit ht.known
  simp only [closedView, Prod.mk.injEq] at hclosed
  obtain ⟨hcalls, hexit, hentry, heps, hknown⟩ := hclosed
  refine ⟨by simp only [hlane], ⟨hexit.trans ht.exit, hentry.trans ht.noEntry, ?_, ?_⟩,
    savedRow t, ?_, htype.trans hAXS, hrowIU.trans hIU, hrowFee.trans (congrArg gfeeFormat hfee),
    hrowRedeem.trans (congrArg gfeeFormat hredeem), hrowPaid.trans hleft⟩
  · rw [hknown]
    exact ht.known
  · rw [heps]
    exact ht.eps
  · rw [hcalls, ← hrows]
    rfl

/-- Closing a member saves its exit; both channels are recorded as AXS. -/
theorem closedAs_closeExitOperation {s t : Station} (channel : Channel)
    (hview : rowView t = rowView s) (ht : Parked t) (howes : 0 < remainder s.tExit) :
    ClosedAs s (after (closeExitOperation channel.status) t) := by
  have hclosed : closeExitOperation channel.status t =
      (saveExit >>= fun _ => pure ()) { t with
        calls := .closeExitOperation channel.status t.tExit t.tParas.gfGSTRate :: t.calls
        tExit := { t.tExit with iStatus := 0, iCardType := 4 } } := by
    cases channel <;> rfl
  rw [after, hclosed, bind_pure_unit]
  exact closedAs_saveExit hview ⟨ht.exit, ht.noEntry, ht.known, ht.eps⟩ rfl howes

/-! ## The release -/

section Release

variable {channel : Channel} {s : Station} {depth : ℕ}

/-- The station when `PBSExit` has set the flag of the channel. -/
def released (channel : Channel) (s : Station) : Station :=
  { s with asked := s.asked + channel.asked, tExit := channel.flagged s.tExit }

theorem Releasable.parked (hs : Releasable channel s) : Parked (released channel s) := by
  have hknown : s.tExit.sIUNo ≠ "" := by
    intro hempty
    have hlength := hs.known
    rw [hempty] at hlength
    exact absurd hlength (by decide)
  refine ⟨hs.exit, hs.noEntry, ?_, hs.eps⟩
  cases channel <;> exact hknown

theorem Releasable.unsettled (hs : Releasable channel s) : 0 < remainder s.tExit :=
  hs.amount ▸ hs.owes

theorem rowView_released (channel : Channel) (s : Station) :
    rowView (released channel s) = rowView s := by
  cases channel <;> rfl

/-- What `PBSExit` does for a member. -/
theorem after_payAmount (hs : Releasable channel s) (iDevicetype : DeviceType) (sCardNo : String)
    (sCardType : ℤ) (sCardBal : ℚ) :
    after (payAmount (enableCashcardAt depth) iDevicetype sCardNo sCardType sCardBal) s =
      if s.tExit.sRedeemAmt = 0 then
        after (enableCashcardAt depth true >>= fun _ => openbarrier 0) (released channel s)
      else after (closeExitOperation channel.status >>= fun _ => openbarrier 0)
        (released channel s) := by
  have hlow : ¬s.tExit.sPaidAmt > 500 := not_lt.mpr hs.low
  have hmember : s.tParas.giEPS ≠ 3 ∧ s.tExit.sIUNo.length = 10 := ⟨hs.eps, hs.known⟩
  have hchosen := hs.chosen
  rw [payAmount, after_get_bind, if_pos hmember, after_ask_bind]
  cases channel with
  | EZPay =>
      rw [if_pos (show _ = _ from hchosen), bind_pure_unit, payByEZPay, releaseMember,
        after_get_bind, if_neg hlow, after_modify_bind, after_ite]
      rfl
  | AXS =>
      rw [if_neg hchosen.1, after_ask_bind, if_pos (show _ = _ from hchosen.2), bind_pure_unit,
        payByAXS, releaseMember, after_get_bind, if_neg hlow, after_modify_bind, after_ite]
      rfl

/-! ## The end of loop A -/

instance (bEnable : Bool) : Returns (switchReaders bEnable) := by
  unfold switchReaders
  infer_instance

/-- Switching the readers for a known vehicle comes to an end. -/
theorem enableCashcardAt_ok {t : Station} (ht : Parked t) (depth : ℕ) (bEnable : Bool) :
    ∃ t', enableCashcardAt (depth + 1) bEnable t = .ok ⟨⟩ t' := by
  rw [enableCashcardAt, enableCashcardBody, get_bind]
  by_cases hsame : bEnable = t.tProcess.sEnableReader
  · rw [if_pos hsame]
    exact ⟨t, rfl⟩
  · have hlooked : lookUpLPN t = "" := lookUpLPN_known ht.exit ht.known
    have hlpn : lookUpLPN { t with tProcess.sEnableReader := bEnable } = "" := hlooked
    rw [if_neg hsame, modify_bind, get_bind]
    simp only [hlpn, ne_eq, not_true_eq_false, if_false, pure_bind]
    rw [if_neg (by decide)]
    obtain ⟨⟨⟩, t', hok⟩ := Returns.returns (m := switchReaders bEnable)
      { t with tProcess.sEnableReader := bEnable }
    exact ⟨t', hok⟩

theorem ClosedAs.of_awaits {t t' : Station} (ht : ClosedAs s t) (ht' : Awaits t t') :
    ClosedAs s t' := by
  have hview := ht'.view
  simp only [memberView, Prod.mk.injEq] at hview
  obtain ⟨hrows, hsaved, -⟩ := hview
  obtain ⟨row, hrow, hspec⟩ := ht.row
  exact ⟨hsaved.trans ht.saved, ht'.parked, row, hrows.trans hrow, hspec⟩

/-- A procedure that leaves every member alone leaves a closed one alone. -/
theorem ClosedAs.kept {α : Type} {m : Op α} {t : Station} (ht : ClosedAs s t)
    (hm : Leads (Awaits t) (Awaits t) m) : ClosedAs s (after m t) :=
  ht.of_awaits (hm.leads t ⟨rfl, ht.parked⟩)

theorem rowView_of_awaits {t : Station} (ht : Awaits (released channel s) t) :
    rowView t = rowView s := by
  rw [← rowView_released channel s]
  have hview := ht.view
  simp only [memberView, Prod.mk.injEq] at hview
  obtain ⟨hrows, -, -, -, -, hIU, hfee, hrebate, hredeem, howe, -⟩ := hview
  simp only [rowView, hrows, hIU, hfee, hrebate, hredeem, howe]

/-- The end of loop A closes a member that has not been saved. -/
theorem closedAs_loopAGone (hs : Releasable channel s) (hnone : s.tExit.sRedeemAmt = 0)
    {t : Station} (ht : Awaits (released channel s) t) :
    ClosedAs s (after (loopAGone (enableCashcardAt (depth + 1))) t) := by
  have hentry : t.gtStation.iType ≠ .tientry := by
    rw [ht.parked.exit]
    decide
  have hview := ht.view
  simp only [memberView, Prod.mk.injEq] at hview
  obtain ⟨-, hsaved, -, -, -, -, -, -, hredeem, -, hEZPay, hAXS⟩ := hview
  have hwaits : t.tExit.sRedeemAmt = 0 ∧ t.tProcess.gbsavedtrans = false := by
    rw [hredeem, hsaved]
    refine ⟨?_, hs.unsaved⟩
    cases channel <;> exact hnone
  -- the readers are switched off, and the exit is closed for the channel of the flag
  have hclose (k : Op Unit) (hk : ∀ t', Leads (Awaits t') (Awaits t') k) :
      ClosedAs s (after (do
        enableCashcardAt (depth + 1) false
        closeExitOperation channel.status
        k) t) := by
    obtain ⟨t', hok⟩ := enableCashcardAt_ok ht.parked depth false
    have henable : Leads (Awaits (released channel s)) (Awaits (released channel s))
        (enableCashcardAt (depth + 1) false) := inferInstance
    have ht' := henable.leads t ht
    rw [after_of_ok hok] at ht'
    have hclosed := closedAs_closeExitOperation channel (rowView_of_awaits ht') ht'.parked
      hs.unsettled
    rw [after_bind_of_ok hok]
    rcases after_bind (closeExitOperation channel.status) (fun _ => k) t' with hleft | ⟨_, hright⟩
    · rw [hleft]
      exact hclosed
    · rw [hright]
      exact hclosed.kept (hk _)
  have hrest (t' : Station) : Leads (Awaits t') (Awaits t') (do
      enableCashcardAt (depth + 1) false
      if (← get).tParas.giEPS = 3 then send .obuInfoStopReq) := inferInstance
  rw [loopAGone, after_get_bind, if_neg hentry, if_neg ht.parked.known, closeLeavingMember,
    bind_assoc, after_get_bind, if_pos hwaits]
  cases channel with
  | EZPay =>
      rw [if_pos (show t.tExit.bPayByEZPay = true from hEZPay), bind_assoc]
      exact hclose _ hrest
  | AXS =>
      have hother : t.tExit.bPayByEZPay = false := hEZPay.trans hs.unflagged.1
      rw [if_neg (by simp [hother]), if_pos (show t.tExit.bPayByAXS = true from hAXS), bind_assoc]
      exact hclose _ hrest

/-! ## Runs -/

/-- What has become of a member since it was released. -/
inductive Recording (channel : Channel) (s t : Station) : Prop
  | waiting (hnone : s.tExit.sRedeemAmt = 0) (hwaits : Awaits (released channel s) t)
  | closed (hclosed : ClosedAs s t)

/-- `PBSExit` saves the exit when there is a redemption. -/
theorem recording_payAmount (hs : Releasable channel s) (iDevicetype : DeviceType)
    (sCardNo : String) (sCardType : ℤ) (sCardBal : ℚ) :
    Recording channel s (after (payAmount (enableCashcardAt depth) iDevicetype sCardNo sCardType
      sCardBal) s) := by
  rw [after_payAmount hs]
  by_cases hnone : s.tExit.sRedeemAmt = 0
  · have hrelease : Leads (Awaits (released channel s)) (Awaits (released channel s)) (do
        enableCashcardAt depth true
        openbarrier 0) := inferInstance
    rw [if_pos hnone]
    exact .waiting hnone (hrelease.leads _ ⟨rfl, hs.parked⟩)
  · have hclosed := closedAs_closeExitOperation channel (rowView_released channel s) hs.parked
      hs.unsettled
    rw [if_neg hnone]
    rcases after_bind (closeExitOperation channel.status) (fun _ => openbarrier 0)
      (released channel s) with hleft | ⟨_, hright⟩
    · rw [hleft]
      exact .closed hclosed
    · rw [hright]
      exact .closed (hclosed.kept inferInstance)

/-- Loop A ends, or the event leaves the member alone. -/
def Orderly (s : Station) (event : Event) : Prop :=
  event = .dio .LOOP_A_OFF_EVENT ∨ Quiet s event

theorem closedAs_loopAOff (hs : Releasable channel s) {t : Station} (ht : Recording channel s t) :
    ClosedAs s (after (serve (depth + 1) (.dio .LOOP_A_OFF_EVENT)) t) := by
  cases ht with
  | waiting hnone hwaits =>
      have hcalled : Awaits (released channel s) (called t (.dio .LOOP_A_OFF_EVENT)) :=
        hwaits.of_view rfl
      rw [serve, after_call_bind]
      exact closedAs_loopAGone hs hnone hcalled
  | closed hclosed =>
      have hquiet : Quiet t (.dio .LOOP_A_OFF_EVENT) := hclosed.saved
      exact hclosed.of_awaits (awaits_serve ⟨rfl, hclosed.parked⟩ hquiet)

/-- An orderly event. -/
theorem recording_serve (hs : Releasable channel s) {t : Station} {event : Event}
    (ht : Recording channel s t) (horderly : Orderly t event) :
    Recording channel s (after (serve (depth + 1) event) t) := by
  rcases horderly with rfl | hquiet
  · exact .closed (closedAs_loopAOff hs ht)
  · cases ht with
    | waiting hnone hwaits => exact .waiting hnone (awaits_serve hwaits hquiet)
    | closed hclosed => exact .closed (hclosed.of_awaits (awaits_serve ⟨rfl, hclosed.parked⟩ hquiet))

/-- The one record of a closed member is that of the AXS channel. -/
theorem ClosedAs.recordedOnce_iff (hs : Releasable channel s) {t : Station} (ht : ClosedAs s t) :
    RecordedOnce channel s t ↔ channel = .AXS := by
  obtain ⟨row, hrows, htype, hIU, hfee, hredeem, hpaid⟩ := ht.row
  constructor
  · rintro ⟨row', hrows', htype', -⟩
    rw [hrows, List.cons.injEq] at hrows'
    rw [← hrows'.1, htype] at htype'
    cases channel with
    | EZPay => exact absurd htype' (by decide)
    | AXS => rfl
  · rintro rfl
    exact ⟨row, hrows, htype, hIU, hfee, hredeem, hpaid.trans hs.amount.symm⟩

/-- What holds of the record of a member at any time until its data are cleared: when the exit
is saved there is one record for the channel, and before that there is none and the end of
loop A makes it. -/
structure RecordedInTime (depth : ℕ) (channel : Channel) (s t : Station) : Prop where
  saved : t.tProcess.gbsavedtrans = true → RecordedOnce channel s t
  unsaved : t.tProcess.gbsavedtrans = false → rowsOf t.calls = rowsOf s.calls ∧
    RecordedOnce channel s (after (serve (depth + 1) (.dio .LOOP_A_OFF_EVENT)) t)

theorem recordedInTime_iff (hs : Releasable channel s) {t : Station} (ht : Recording channel s t) :
    RecordedInTime depth channel s t ↔ channel = .AXS := by
  have hleft : RecordedOnce channel s (after (serve (depth + 1) (.dio .LOOP_A_OFF_EVENT)) t) ↔
      channel = .AXS := (closedAs_loopAOff hs ht).recordedOnce_iff hs
  cases ht with
  | waiting hnone hwaits =>
      have hview := hwaits.view
      simp only [memberView, Prod.mk.injEq] at hview
      obtain ⟨hrows, hsame, -⟩ := hview
      have hunsaved : t.tProcess.gbsavedtrans = false := hsame.trans hs.unsaved
      constructor
      · exact fun hrecorded => hleft.mp (hrecorded.unsaved hunsaved).2
      · intro hAXS
        refine ⟨fun hsaved => ?_, fun _ => ⟨hrows.trans ?_, hleft.mpr hAXS⟩⟩
        · cases hsaved.symm.trans hunsaved
        · cases channel <;> rfl
  | closed hclosed =>
      have hrow := hclosed.recordedOnce_iff hs
      constructor
      · exact fun hrecorded => hrow.mp (hrecorded.saved hclosed.saved)
      · intro hAXS
        refine ⟨fun _ => hrow.mpr hAXS, fun hunsaved => ?_⟩
        cases hclosed.saved.symm.trans hunsaved

/-- A member that `PBSExit` has released is recorded once for its channel, in any orderly run,
if and only if its channel is AXS. -/
theorem member_recordedInTime (hs : Releasable channel s) (iDevicetype : DeviceType)
    (sCardNo : String) (sCardType : ℤ) (sCardBal : ℚ) (events : List Event)
    (horderly : Along (serve (depth + 1)) Orderly events
      (after (payAmount (enableCashcardAt (depth + 1)) iDevicetype sCardNo sCardType sCardBal) s)) :
    RecordedInTime depth channel s (history (depth + 1) events
      (after (payAmount (enableCashcardAt (depth + 1)) iDevicetype sCardNo sCardType sCardBal)
        s)) ↔ channel = .AXS := by
  have hstep (t : Station) (event : Event) (ht : Recording channel s t) (hevent : Orderly t event) :
      Recording channel s (after (serve (depth + 1) event) t) := recording_serve hs ht hevent
  have hrecording := run_invariant hstep events _
    (recording_payAmount hs iDevicetype sCardNo sCardType sCardBal) horderly
  exact recordedInTime_iff hs hrecording

end Release

/-! ## Members that are not recorded -/

/-- An exit with a vehicle of `channel` that owes three dollars. -/
def memberExit (channel : Channel) : Station :=
  { emptyExit with
    env.hasEZpay := fun _ _ => if channel = .EZPay then 1 else 0
    env.hasAXS := fun _ _ => if channel = .AXS then 1 else 0
    env.gbLoopApresent := fun _ => true
    tExit := { clearedExit {} with sIUNo := "1234567890", sFee := 3, sPaidAmt := 3 } }

theorem releasable_memberExit (channel : Channel) : Releasable channel (memberExit channel) where
  exit := rfl
  noEntry := rfl
  known := by cases channel <;> decide +kernel
  eps := by cases channel <;> decide
  chosen := by cases channel <;> decide
  amount := by cases channel <;> decide +kernel
  owes := by cases channel <;> decide +kernel
  low := by cases channel <;> decide +kernel
  unsaved := rfl
  unflagged := ⟨rfl, rfl⟩

/-- The vehicle has been read by the antenna, and `PBSExit` has released it. -/
def releasedMember (channel : Channel) : Station :=
  after (payAmount (enableCashcardAt 1) .Ant "" 0 0) (memberExit channel)

theorem member_recordedInTime_AXS :
    RecordedInTime 0 .AXS (memberExit .AXS)
      (history 1 [.ksmCardIn, .dio .LOOP_A_OFF_EVENT] (releasedMember .AXS)) := by
  refine (member_recordedInTime (releasable_memberExit .AXS) .Ant "" 0 0 _ ?_).mpr rfl
  refine ⟨Or.inr trivial, ?_⟩
  split
  · refine ⟨Or.inl rfl, ?_⟩
    split <;> trivial
  · trivial

theorem rows_EZPay :
    (rowsOf (history 1 [.dio .LOOP_A_OFF_EVENT] (releasedMember .EZPay)).calls).map
      (·.iCardType) = [4] := by
  decide +kernel

/-- The record of an EZ-Link member says AXS.  A member that loop A times out for is cleared
without a record. -/
theorem not_member_recorded :
    (Releasable .EZPay (memberExit .EZPay) ∧
      ¬RecordedOnce .EZPay (memberExit .EZPay)
        (history 1 [.dio .LOOP_A_OFF_EVENT] (releasedMember .EZPay))) ∧
    (Releasable .AXS (memberExit .AXS) ∧
      (history 1 [.loopATimeout] (releasedMember .AXS)).tExit.sIUNo = "" ∧
      rowsOf (history 1 [.loopATimeout] (releasedMember .AXS)).calls = []) := by
  refine ⟨⟨releasable_memberExit .EZPay, ?_⟩, releasable_memberExit .AXS, ?_, ?_⟩
  · rintro ⟨row, hrows, htype, -⟩
    have hmap := rows_EZPay
    rw [hrows, List.map_cons, List.cons.injEq] at hmap
    have hfour := htype.symm.trans hmap.1
    cases hfour
  · decide +kernel
  · decide +kernel

end LinuxPBS.Operation

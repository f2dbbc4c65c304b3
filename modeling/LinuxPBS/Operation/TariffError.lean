import LinuxPBS.Operation.Closing
import LinuxPBS.Operation.Walk
import LinuxPBS.Tariff.TariffTypes

/-!
# A tariff error is charged like a fee

`CalFeeRAM2G` returns a negative code when there is no fee, and nothing that is computed
from its value tests for one.  The code stands for the fee in "Total paid Amt": what is
left of an amount owed when it is taken off is asked for, and when nothing is left the
vehicle is released as `FreeParking`.

`PBSExit` and `ReceivedEntryRecord` compute the amount in the same way; what they do with
it is `payFee` for the one, and a request for a card for the other.
-/

set_option synthInstance.maxSize 10000

namespace LinuxPBS.Operation

open Handler

/-! ## The amount -/

/-- A vehicle is released under `FreeParking`. -/
def isFreeParking : Call → Bool
  | .closeExitOperation .FreeParking _ _ => true
  | _ => false

/-- The station when the redemption has been computed. -/
def redeemed (s : Station) : Station :=
  if s.tExit.iRedeemTime > 0 then after redeemTime2Amt s else s

/-- "Total paid Amt", when `fee` is the fee. -/
def totalAmt (fee : ℚ) (tExit : TExit) : ℚ :=
  gfeeFormat (fee - tExit.sRebateAmt - tExit.sRedeemAmt + tExit.sOweAmt)

/-- No vehicle has been released for nothing between `s` and `s'`, and the amount to be paid is
not `total`, which has the error code in it. -/
structure ErrorRespected (total : ℚ) (s s' : Station) : Prop where
  notFree : s'.calls.countP isFreeParking = s.calls.countP isFreeParking
  notAdded : s'.tExit.sPaidAmt ≠ total

/-- `total` is to be paid, and `n` vehicles have been released for nothing. -/
def Asked (total : ℚ) (n : ℕ) (s : Station) : Prop :=
  s.tExit.sPaidAmt = total ∧ s.calls.countP isFreeParking = n

theorem not_errorRespected {total : ℚ} {s s' : Station}
    (hasked : 0 < total → Asked total (s.calls.countP isFreeParking) s')
    (hfree : total ≤ 0 → Exceeds isFreeParking (s.calls.countP isFreeParking) s') :
    (s'.calls.countP isFreeParking = s.calls.countP isFreeParking ↔ 0 < total) ∧
      ¬ErrorRespected total s s' := by
  rcases lt_or_ge 0 total with hpos | hle
  · obtain ⟨hpaid, hcount⟩ := hasked hpos
    exact ⟨iff_of_true hcount hpos, fun h => h.notAdded hpaid⟩
  · have hexceeds := hfree hle
    exact ⟨iff_of_false hexceeds.ne' (not_lt.mpr hle), fun h => hexceeds.ne' h.notFree⟩

/-- The redemption is not cut when something is left to be paid. -/
theorem settleAmounts_sPaidAmt {tExit : TExit} (hpos : 0 < totalAmt tExit.sFee tExit) :
    (settleAmounts tExit).sPaidAmt = totalAmt tExit.sFee tExit := by
  have hleft := pos_of_gfeeFormat_pos hpos
  have hredeem : gfeeFormat tExit.sRedeemAmt ≤ gfeeFormat (amountDue tExit) := by
    refine gfeeFormat_mono ?_
    unfold amountDue
    linarith
  unfold settleAmounts
  rw [if_neg (not_lt.mpr hredeem), totalAmt]

/-! ## The code is taken for the fee -/

/-- An error looks for no ticket. -/
theorem calFeeRAM_error {s : Station} {eTime until_ : String} {iTransType : ℤ} {code : ℚ}
    (hcode : s.env.calFeeRAM2G s.asked eTime until_ iTransType = code) (herror : code < 0) :
    calFeeRAM eTime until_ iTransType s = .ok code { s with asked := s.asked + 1 } := by
  have hno : ¬(code ≥ 1 / 100 ∧ s.tExit.sRedeemAmt = 0 ∧ s.tExit.iRedeemTime = 0) :=
    fun h => by linarith [h.1]
  rw [calFeeRAM, ask_bind, hcode, get_bind, if_neg hno]
  rfl

section Amounts

/-- What the amount to be paid is computed from, with the lane. -/
@[reducible] def amountView (s : Station) : Lane × ℚ × ℚ × ℚ × ℚ × String :=
  (lane s, s.tExit.sFee, s.tExit.sRebateAmt, s.tExit.sRedeemAmt, s.tExit.sOweAmt,
    s.tExit.sRedeemNo)

instance : Frames amountView showFee2User := by
  unfold showFee2User sendMsg2OBU
  infer_instance

instance (iuNo lpn : String) (usedBy : ℤ) : Returns (lookForTicket iuNo lpn usedBy) := by
  unfold lookForTicket
  dsimp only
  infer_instance

instance (eTime payTime : String) (iTransType : ℤ) : Returns (calFeeRAM eTime payTime iTransType) := by
  unfold calFeeRAM
  infer_instance

instance : Returns redeemTime2Amt := by
  unfold redeemTime2Amt sameBlock
  dsimp only
  infer_instance

/-- What `RedeemTime2Amt` leaves of it, besides the lane. -/
@[reducible] def feeView (s : Station) : ℚ × ℚ × ℚ :=
  (s.tExit.sFee, s.tExit.sRebateAmt, s.tExit.sOweAmt)

theorem exitAmounts_hasValidTicket (answer : TicketAnswer) (tExit : TExit) :
    (hasValidTicket answer tExit).1.sFee = tExit.sFee ∧
      (hasValidTicket answer tExit).1.sRebateAmt = tExit.sRebateAmt ∧
      (hasValidTicket answer tExit).1.sOweAmt = tExit.sOweAmt := by
  unfold hasValidTicket
  split
  · exact ⟨rfl, rfl, rfl⟩
  · exact ⟨rfl, rfl, rfl⟩
  · split
    · split <;> exact ⟨rfl, rfl, rfl⟩
    · exact ⟨rfl, rfl, rfl⟩

instance (answer : TicketAnswer) : Frames feeView
    (modify fun s => { s with tExit := (hasValidTicket answer s.tExit).1 } : Op Unit) where
  frames s := by
    obtain ⟨hfee, hrebate, howe⟩ := exitAmounts_hasValidTicket answer s.tExit
    simp only [feeView, after_modify, hfee, hrebate, howe]

instance (eTime payTime : String) (iTransType : ℤ) :
    Frames feeView (calFeeRAM eTime payTime iTransType) := by
  unfold calFeeRAM lookForTicket
  dsimp only
  infer_instance

instance : Frames feeView redeemTime2Amt := by
  unfold redeemTime2Amt sameBlock
  dsimp only
  infer_instance

/-- The redemption is computed, and the code goes on into the amount. -/
theorem redeemed_spec {α : Type} {s : Station} (k : Unit → Op α) :
    after (do
      if s.tExit.iRedeemTime > 0 then redeemTime2Amt
      k ()) s = after (k ()) (redeemed s) ∧
      lane (redeemed s) = lane s ∧ feeView (redeemed s) = feeView s := by
  unfold redeemed
  split
  · obtain ⟨⟨⟩, hreturns⟩ := Returns.after_bind (m := redeemTime2Amt) k s
    exact ⟨hreturns, Frames.after_eq lane redeemTime2Amt s,
      Frames.after_eq feeView redeemTime2Amt s⟩
  · exact ⟨rfl, rfl, rfl⟩

/-- "Total paid Amt" and `showFee2User` agree. -/
theorem after_showFee2User {α : Type} {s : Station} (k : Unit → Op α) :
    ∃ s', after (do
        modify fun s => { s with
          tExit.sPaidAmt := max 0 (gfeeFormat
            (s.tExit.sFee - s.tExit.sRebateAmt - s.tExit.sRedeemAmt + s.tExit.sOweAmt)) }
        showFee2User
        k ()) s = after (k ()) s' ∧
      s'.tExit.sPaidAmt = max 0 (totalAmt s.tExit.sFee s.tExit) ∧ amountView s' = amountView s := by
  obtain ⟨⟨⟩, hreturns⟩ := Returns.after_bind (m := showFee2User) k
    { s with
      tExit.sPaidAmt := max 0 (gfeeFormat
        (s.tExit.sFee - s.tExit.sRebateAmt - s.tExit.sRedeemAmt + s.tExit.sOweAmt)) }
  refine ⟨_, hreturns, ?_, Frames.after_eq amountView showFee2User _⟩
  have hround : gfeeFormat (max 0 (totalAmt s.tExit.sFee s.tExit)) =
      max 0 (totalAmt s.tExit.sFee s.tExit) := by
    rcases max_choice 0 (totalAmt s.tExit.sFee s.tExit) with hmax | hmax
    · rw [hmax, gfeeFormat_zero]
    · rw [hmax, totalAmt, gfeeFormat_gfeeFormat]
  rw [← hround]
  have horder : s.tExit.sFee - s.tExit.sRebateAmt - s.tExit.sRedeemAmt =
      s.tExit.sFee - s.tExit.sRedeemAmt - s.tExit.sRebateAmt := by ring
  unfold showFee2User totalAmt
  rw [horder]
  simp only [sendMsg2Server, sendMsg2OBU, bind_assoc, after_get_bind, after_send_bind]
  split <;> rfl

/-- The amount has been computed and shown: it has the code in it. -/
structure Totalled (code : ℚ) (s s' : Station) : Prop where
  lane_eq : lane s' = lane s
  sPaidAmt : s'.tExit.sPaidAmt = max 0 (totalAmt code (redeemed s).tExit)
  amounts : totalAmt s'.tExit.sFee s'.tExit = totalAmt code (redeemed s).tExit
  sRedeemNo : s'.tExit.sRedeemNo = (redeemed s).tExit.sRedeemNo
  sRedeemAmt : s'.tExit.sRedeemAmt = (redeemed s).tExit.sRedeemAmt

/-- `PBSExit` and `ReceivedEntryRecord` from the redemption on. -/
theorem after_total {α : Type} {s : Station} {code : ℚ} (hfee : s.tExit.sFee = code)
    (k : Unit → Op α) :
    ∃ s', Totalled code s s' ∧
      after (do
        if s.tExit.iRedeemTime > 0 then redeemTime2Amt
        modify fun s => { s with
          tExit.sPaidAmt := max 0 (gfeeFormat
            (s.tExit.sFee - s.tExit.sRebateAmt - s.tExit.sRedeemAmt + s.tExit.sOweAmt)) }
        showFee2User
        k ()) s = after (k ()) s' := by
  obtain ⟨hredeem, hlane, hview⟩ := redeemed_spec (s := s) fun _ => do
    modify fun s => { s with
      tExit.sPaidAmt := max 0 (gfeeFormat
        (s.tExit.sFee - s.tExit.sRebateAmt - s.tExit.sRedeemAmt + s.tExit.sOweAmt)) }
    showFee2User
    k ()
  obtain ⟨s', hshow, hpaid, hamounts⟩ := after_showFee2User (s := redeemed s) k
  simp only [Prod.mk.injEq] at hview hamounts
  obtain ⟨hfee₁, -, -⟩ := hview
  obtain ⟨hlane', hfee', hrebate, hredeemAmt, howe, hredeemNo⟩ := hamounts
  rw [hfee₁, hfee] at hpaid hfee'
  refine ⟨s', ⟨hlane'.trans hlane, hpaid, ?_, hredeemNo, hredeemAmt⟩, hredeem.trans hshow⟩
  rw [hfee']
  unfold totalAmt
  rw [hrebate, hredeemAmt, howe]

end Amounts

/-! ## What is done with the amount -/

/-- A vehicle that is known is asked for `total`, which is also what `SaveExit` would record. -/
structure Pays (total : ℚ) (n : ℕ) (s : Station) : Prop where
  iType : s.gtStation.iType = .tiExit
  known : s.tExit.sIUNo ≠ ""
  asked : Asked total n s
  recorded : (settleAmounts s.tExit).sPaidAmt = total

/-- The part of the state `Pays` is about. -/
@[reducible] def paysView (s : Station) :
    TStationType × TParas × String × ℚ × (ℚ × ℚ × ℚ × ℚ) × List Call :=
  (s.gtStation.iType, s.tParas, s.tExit.sIUNo, s.tExit.sPaidAmt,
    (s.tExit.sFee, s.tExit.sRebateAmt, s.tExit.sRedeemAmt, s.tExit.sOweAmt), s.calls)

section Acts

variable {total : ℚ} {n : ℕ}

theorem Pays.of_view {s s' : Station} (hview : paysView s' = paysView s) (hs : Pays total n s) :
    Pays total n s' := by
  simp only [Prod.mk.injEq] at hview
  obtain ⟨hiType, -, hIU, hpaid, ⟨hfee, hrebate, hredeem, howe⟩, hcalls⟩ := hview
  refine ⟨hiType.trans hs.iType, hIU ▸ hs.known, ⟨hpaid.trans hs.asked.1, ?_⟩, ?_⟩
  · rw [hcalls, hs.asked.2]
  · rw [← hs.recorded]
    unfold settleAmounts amountDue
    rw [hfee, hrebate, hredeem, howe]

instance {α : Type} (m : Op α) [hm : Frames paysView m] : Leads (Pays total n) (Pays total n) m :=
  ⟨fun s hs => hs.of_view (hm.frames s)⟩

instance (device : DeviceType) (sCardNo request : String) :
    Leads (Pays total n) (Pays total n) (call (.deduct device sCardNo request)) :=
  ⟨fun _ hs => ⟨hs.iType, hs.known, hs.asked, hs.recorded⟩⟩

instance (delay : ℕ) : Frames paysView (eepInq delay) := by
  unfold eepInq
  infer_instance

instance (bEnable : Bool) : Frames paysView (switchReaders bEnable) := by
  unfold switchReaders
  infer_instance

instance (depth : ℕ) (bEnable : Bool) :
    Leads (Pays total n) (Pays total n) (enableCashcardAt depth bEnable) :=
  enableCashcardAt_of_findsNone (fun _ hs => findsNone_known hs.iType hs.known bEnable) depth

variable (depth : ℕ)

instance (obu : String) (lFee : ℚ) (entryTime exitTime : String) : Leads (Pays total n) (Pays total n)
    (eepDebit (enableCashcardAt depth) obu lFee entryTime exitTime) := by
  unfold eepDebit
  infer_instance

instance (sCardNo : String) (sCardBal : ℚ) : Leads (Pays total n) (Pays total n)
    (eepDebitCard (enableCashcardAt depth) sCardNo sCardBal) := by
  unfold eepDebitCard
  infer_instance

instance (obu : String) (lFee : ℚ) (sCardNo : String) (sCardBal : ℚ) :
    Leads (Pays total n) (Pays total n) (chuDebit obu lFee sCardNo sCardBal) := by
  unfold chuDebit sendMsg2CHU
  dsimp only
  infer_instance

instance (cardNo : String) (sFee : ℚ) (iDevicetype : DeviceType) (sCardType : ℤ) (sCardBal : ℚ) :
    Leads (Pays total n) (Pays total n)
      (debitfromReader cardNo sFee iDevicetype sCardType sCardBal) := by
  unfold debitfromReader
  dsimp only
  infer_instance

instance (iDevicetype : DeviceType) (sCardNo : String) (sCardType : ℤ) (sCardBal : ℚ) :
    Leads (Pays total n) (Pays total n)
      (payByDevice (enableCashcardAt depth) iDevicetype sCardNo sCardType sCardBal) := by
  unfold payByDevice
  dsimp only
  infer_instance

/-! ### Members -/

/-- The barrier does not clear the lane. -/
def AskedMember (total : ℚ) (n : ℕ) (s : Station) : Prop :=
  Asked total n s ∧ s.tParas.giEPS ≠ 3

/-- A vehicle that may be released as a member. -/
def PaysMember (total : ℚ) (n : ℕ) (s : Station) : Prop :=
  Pays total n s ∧ s.tParas.giEPS ≠ 3

instance : Entails (PaysMember total n) (AskedMember total n) := ⟨fun _ hs => ⟨hs.1.asked, hs.2⟩⟩

instance : Entails (PaysMember total n) (Asked total n) := ⟨fun _ hs => hs.1.asked⟩

instance {α : Type} (m : Op α) [hm : Frames paysView m] :
    Leads (PaysMember total n) (PaysMember total n) m where
  leads s hs := by
    have hparas : (after m s).tParas = s.tParas := congrArg (fun view => view.2.1) (hm.frames s)
    exact ⟨hs.1.of_view (hm.frames s), hparas ▸ hs.2⟩

instance (bEnable : Bool) :
    Leads (PaysMember total n) (PaysMember total n) (enableCashcardAt depth bEnable) :=
  enableCashcardAt_of_findsNone (fun _ hs => findsNone_known hs.1.iType hs.1.known bEnable) depth

instance (iReason : ℤ) : Leads (AskedMember total n) (AskedMember total n) (openbarrier iReason) where
  leads s hs := by
    rw [openbarrier, after_get_bind, after_ite, after_ite]
    split
    · exact hs
    · split
      · exact hs
      · rw [after_modify_bind, after_call_bind, if_neg hs.2]
        exact hs

instance (iReason : ℤ) : Leads (PaysMember total n) (AskedMember total n) (openbarrier iReason) :=
  Leads.weaken (P := AskedMember total n) (Q := AskedMember total n) inferInstance
    (fun _ hs => ⟨hs.1.asked, hs.2⟩) fun _ hs => hs

/-- `SaveExit` records what has to be paid. -/
theorem Pays.saveExit {s : Station} (hs : Pays total n s) :
    Asked total n (after saveExit s) ∧ (after saveExit s).tParas = s.tParas := by
  obtain ⟨row, ret, hrow, -, hpaid, hsaved⟩ := after_saveExit hs.known
  have hlane := hsaved.lane_eq
  simp only [lane, Lane.mk.injEq] at hlane
  refine ⟨⟨?_, ?_⟩, by simp only [hlane]⟩
  · have hrecorded : (settleExit s).sPaidAmt = total := hs.recorded
    have hround : gfeeFormat total = total := by
      rw [← hs.recorded]
      exact gfeeFormat_gfeeFormat _
    rw [hpaid, hrow, hrecorded, hround]
  · simp only [hlane]
    exact hs.asked.2

/-- Closing a member's exit leaves the barrier to `PBSExit`. -/
theorem leads_closeMember {iStatus : TransType}
    (hmember : iStatus = .EZPayParking ∨ iStatus = .AXSParking) :
    Leads (PaysMember total n) (AskedMember total n) (closeExitOperation iStatus) where
  leads s hs := by
    have hclose : after (closeExitOperation iStatus) s = after Operation.saveExit
        { s with
          calls := .closeExitOperation iStatus s.tExit s.tParas.gfGSTRate :: s.calls
          tExit := closingStatus iStatus s.tExit } := by
      rcases hmember with rfl | rfl <;>
      · rw [closeExitOperation, after_get_bind, after_call_bind, after_modify_bind]
        simp only [ne_eq, reduceCtorEq, not_true_eq_false, not_false_eq_true, and_false, false_and,
          if_false, bind_pure_unit]
    have hpays : Pays total n
        { s with
          calls := .closeExitOperation iStatus s.tExit s.tParas.gfGSTRate :: s.calls
          tExit := closingStatus iStatus s.tExit } := by
      rcases hmember with rfl | rfl <;>
      · exact ⟨hs.1.iType, hs.1.known, hs.1.asked, hs.1.recorded⟩
    obtain ⟨hasked, hparas⟩ := hpays.saveExit
    rw [hclose]
    refine ⟨hasked, ?_⟩
    rw [hparas]
    exact hs.2

theorem leads_releaseMember {iStatus : TransType} {member : TExit → TExit}
    (hmember : iStatus = .EZPayParking ∨ iStatus = .AXSParking)
    [Frames paysView (modify fun s => { s with tExit := member s.tExit } : Op Unit)] :
    Leads (PaysMember total n) (AskedMember total n)
      (releaseMember (enableCashcardAt depth) member iStatus) := by
  have hclose : Leads (PaysMember total n) (AskedMember total n) (closeExitOperation iStatus) :=
    leads_closeMember hmember
  unfold releaseMember
  dsimp only
  infer_instance

/-- A vehicle is asked for the amount, or it is released as a member with the amount. -/
theorem payAmount_asked {s : Station} (hs : Pays total n s) (iDevicetype : DeviceType)
    (sCardNo : String) (sCardType : ℤ) (sCardBal : ℚ) :
    Asked total n
      (after (payAmount (enableCashcardAt depth) iDevicetype sCardNo sCardType sCardBal) s) := by
  have hdevice : Leads (Pays total n) (Asked total n)
      (payByDevice (enableCashcardAt depth) iDevicetype sCardNo sCardType sCardBal) :=
    Leads.weaken (P := Pays total n) (Q := Pays total n) inferInstance (fun _ hs => hs)
      fun _ hs => hs.asked
  unfold payAmount
  dsimp only
  rw [after_get_bind, after_ite]
  split
  · rename_i hEPS
    have hEZPay : Leads (PaysMember total n) (Asked total n) (payByEZPay (enableCashcardAt depth)) :=
      (leads_releaseMember depth (Or.inl rfl)).weaken (fun _ hs => hs) fun _ hs => hs.1
    have hAXS : Leads (PaysMember total n) (Asked total n) (payByAXS (enableCashcardAt depth)) :=
      (leads_releaseMember depth (Or.inr rfl)).weaken (fun _ hs => hs) fun _ hs => hs.1
    have hother : Leads (PaysMember total n) (Asked total n)
        (payByDevice (enableCashcardAt depth) iDevicetype sCardNo sCardType sCardBal) :=
      hdevice.weaken (fun _ hs => hs.1) fun _ hs => hs
    refine Leads.leads (P := PaysMember total n) s ?_
    exact ⟨hs, hEPS.1⟩
  · exact hdevice.leads s hs

theorem Totalled.pays {code : ℚ} {s s' : Station} (h : Totalled code s s')
    (hexit : s.gtStation.iType = .tiExit) (hknown : s.tExit.sIUNo ≠ "")
    (hpos : 0 < totalAmt code (redeemed s).tExit) :
    Pays (totalAmt code (redeemed s).tExit) (s.calls.countP isFreeParking) s' := by
  have hlane := h.lane_eq
  simp only [lane, Lane.mk.injEq] at hlane
  refine ⟨?_, ?_, ⟨?_, ?_⟩, ?_⟩
  · simp only [hlane, hexit]
  · simp only [hlane]
    exact hknown
  · rw [h.sPaidAmt, max_eq_right hpos.le]
  · simp only [hlane]
  · rw [settleAmounts_sPaidAmt (h.amounts.symm ▸ hpos), h.amounts]

/-- A release under `FreeParking` is counted. -/
theorem freeParking_exceeds (s : Station) :
    Exceeds isFreeParking (s.calls.countP isFreeParking)
      (after (closeExitOperation .FreeParking) s) := by
  have hclosed : s.calls.countP isFreeParking <
      (Call.closeExitOperation .FreeParking s.tExit s.tParas.gfGSTRate :: s.calls).countP
        isFreeParking := by
    rw [List.countP_cons_of_pos rfl]
    exact Nat.lt_succ_self _
  rw [closeExitOperation, after_get_bind, after_call_bind, after_modify_bind]
  refine Leads.leads (P := Exceeds isFreeParking (s.calls.countP isFreeParking)) _ ?_
  exact hclosed

theorem Totalled.released {code : ℚ} {s s' : Station} (h : Totalled code s s')
    (hle : totalAmt code (redeemed s).tExit ≤ 0) :
    s'.tExit.sPaidAmt = 0 ∧ Exceeds isFreeParking (s.calls.countP isFreeParking)
      (after (closeExitOperation .FreeParking) s') := by
  have hcalls : s'.calls = s.calls := congrArg Lane.calls h.lane_eq
  refine ⟨?_, ?_⟩
  · rw [h.sPaidAmt, max_eq_left hle]
  · rw [← hcalls]
    exact freeParking_exceeds s'

end Acts

/-! ## The two functions -/

/-- The station behind the fee of `ReceivedEntryRecord`. -/
def recordCharged (code : ℚ) (s : Station) : Station :=
  { s with
    asked := s.asked + 2
    tExit.sExitTime := s.env.now s.asked
    tExit.sFee := code }

/-- `ReceivedEntryRecord` asks for an amount with the error code in it, or it releases the vehicle
under `FreeParking`. -/
theorem receivedEntryRecord_error (depth : ℕ) {s : Station} {code : ℚ}
    (hexit : s.gtStation.iType = .tiExit) (hknown : s.tExit.sIUNo ≠ "")
    (hcode : s.env.calFeeRAM2G (s.asked + 1) s.tExit.sEntryTime (s.env.now s.asked)
      s.tExit.iVehicleType = code) (herror : code < 0) :
    let total := totalAmt code (redeemed (recordCharged code s)).tExit
    let s' := after (receivedEntryRecord (enableCashcardAt depth)) s
    (0 < total → Asked total (s.calls.countP isFreeParking) s') ∧
      (total ≤ 0 → Exceeds isFreeParking (s.calls.countP isFreeParking) s') := by
  intro total s'
  obtain ⟨s₁, htotal, hafter⟩ := after_total (s := recordCharged code s) rfl fun _ => do
    if (← get).tExit.sPaidAmt > 0 then
      setStatus .WaitingCard
      enableCashcardAt depth true
    else
      closeExitOperation .FreeParking
  have hrecord : s' = after (do
      if (← get).tExit.sPaidAmt > 0 then
        setStatus .WaitingCard
        enableCashcardAt depth true
      else
        closeExitOperation .FreeParking) s₁ := by
    rw [← hafter]
    show after (receivedEntryRecord (enableCashcardAt depth)) s = _
    unfold receivedEntryRecord
    rw [after_ask_bind, after_modify_bind, after_get_bind,
      after_bind_of_ok (calFeeRAM_error hcode herror)]
    rfl
  rw [hrecord, after_get_bind]
  constructor
  · intro hpos
    have hpays := htotal.pays hexit hknown hpos
    rw [if_pos (hpays.asked.1 ▸ hpos)]
    have hcard : Leads (Pays total (s.calls.countP isFreeParking))
        (Pays total (s.calls.countP isFreeParking)) (do
          setStatus .WaitingCard
          enableCashcardAt depth true) := inferInstance
    exact (hcard.leads s₁ hpays).asked
  · intro hle
    obtain ⟨hzero, hfree⟩ := htotal.released hle
    rw [if_neg (by rw [hzero]; exact lt_irrefl 0)]
    exact hfree

/-- The fee of a stay, for a vehicle whose season is not valid. -/
def stayFrom (iRet : ℤ) (s : Station) : String :=
  if iRet = 2 ∧ s.tSeason.date_to > s.tExit.sEntryTime then s.tSeason.date_to
  else s.tExit.sEntryTime

/-- The station behind the fee of `PBSExit`. -/
def stayCharged (code : ℚ) (s : Station) : Station :=
  { s with
    asked := s.asked + 2
    tExit.sExitTime := s.env.now s.asked
    tExit.lParkedTime := parkedMinutes s.env s.tExit.sEntryTime (s.env.now s.asked)
    tExit.sFee := code }

theorem stayFee_error {s : Station} {iRet : ℤ} {code : ℚ} (hseason : iRet ≠ 1)
    (hcode : s.env.calFeeRAM2G s.asked (stayFrom iRet s) s.tExit.sExitTime s.tExit.iVehicleType =
      code) (herror : code < 0) :
    stayFee iRet s = .ok iRet { s with asked := s.asked + 1, tExit.sFee := code } := by
  rw [stayFrom] at hcode
  unfold stayFee
  rw [get_bind, if_neg hseason]
  split
  · rename_i hexpired
    rw [if_pos hexpired] at hcode
    rw [bind_of_ok (calFeeRAM_error hcode herror)]
    rfl
  · rename_i hvalid
    rw [if_neg hvalid] at hcode
    rw [bind_of_ok (calFeeRAM_error hcode herror)]
    rfl

/-- `chargeStay` asks for an amount with the error code in it, or it releases the vehicle under
`FreeParking`. -/
theorem chargeStay_error (depth : ℕ) {s : Station} {code : ℚ} {iRet : ℤ} (iDevicetype : DeviceType)
    (sCardNo : String) (sCardType : ℤ) (sCardBal : ℚ) (hexit : s.gtStation.iType = .tiExit)
    (hknown : s.tExit.sIUNo ≠ "") (hseason : iRet ∉ [1, 9, 12])
    (hpays : s.tExit.iTransType ≠ 10)
    (hcode : s.env.calFeeRAM2G (s.asked + 1) (stayFrom iRet s) (s.env.now s.asked)
      s.tExit.iVehicleType = code) (herror : code < 0)
    (hticket : (redeemed (stayCharged code s)).tExit.sRedeemNo = "" ∨
      (redeemed (stayCharged code s)).tExit.sRedeemAmt ≠ 0) :
    let total := totalAmt code (redeemed (stayCharged code s)).tExit
    let s' := after (chargeStay (enableCashcardAt depth) iRet iDevicetype sCardNo sCardType sCardBal) s
    (0 < total → Asked total (s.calls.countP isFreeParking) s') ∧
      (total ≤ 0 → Exceeds isFreeParking (s.calls.countP isFreeParking) s') := by
  intro total s'
  simp only [List.mem_cons, List.not_mem_nil, or_false, not_or] at hseason
  obtain ⟨h1, h9, h12⟩ := hseason
  obtain ⟨s₁, htotal, hafter⟩ := after_total (s := stayCharged code s) rfl fun _ => do
    let s ← get
    if s.tExit.sRedeemNo ≠ "" ∧ s.tExit.sRedeemAmt = 0 then
      modify fun s => { s with
        tExit.iTransType := 10, tExit.sPaidAmt := 0, tExit.sCardNo := s.tExit.sRedeemNo }
      closeExitOperation .FreeParking
      enableCashcardAt depth false
    else if s.tExit.sPaidAmt > 0 then
      payAmount (enableCashcardAt depth) iDevicetype sCardNo sCardType sCardBal
    else
      closeExitOperation .FreeParking
  have hcharge : s' = after (payFee (enableCashcardAt depth) iDevicetype sCardNo sCardType sCardBal)
      (stayCharged code s) := by
    show after (chargeStay (enableCashcardAt depth) iRet iDevicetype sCardNo sCardType sCardBal) s = _
    unfold chargeStay
    rw [after_ask_bind, after_modify_bind, after_modify_bind,
      after_bind_of_ok (stayFee_error h1 hcode herror)]
    dsimp only
    simp only [h1, h9, h12, if_false, after_pure_bind, Bool.false_eq_true, or_false]
    rw [after_get_bind, if_neg hpays]
    rfl
  have hpay : s' = after (do
      let s ← get
      if s.tExit.sRedeemNo ≠ "" ∧ s.tExit.sRedeemAmt = 0 then
        modify fun s => { s with
          tExit.iTransType := 10, tExit.sPaidAmt := 0, tExit.sCardNo := s.tExit.sRedeemNo }
        closeExitOperation .FreeParking
        enableCashcardAt depth false
      else if s.tExit.sPaidAmt > 0 then
        payAmount (enableCashcardAt depth) iDevicetype sCardNo sCardType sCardBal
      else
        closeExitOperation .FreeParking) s₁ := by
    rw [hcharge, ← hafter]
    rfl
  have hnoTicket : ¬(s₁.tExit.sRedeemNo ≠ "" ∧ s₁.tExit.sRedeemAmt = 0) := by
    rw [htotal.sRedeemNo, htotal.sRedeemAmt]
    tauto
  rw [hpay, after_get_bind, if_neg hnoTicket]
  constructor
  · intro hpos
    have hs₁ := htotal.pays hexit hknown hpos
    rw [if_pos (hs₁.asked.1 ▸ hpos)]
    exact payAmount_asked depth hs₁ iDevicetype sCardNo sCardType sCardBal
  · intro hle
    obtain ⟨hzero, hfree⟩ := htotal.released hle
    rw [if_neg (by rw [hzero]; exact lt_irrefl 0)]
    exact hfree

/-! ## No error is respected -/

/-- `ReceivedEntryRecord` is called for a known vehicle, and the fee of its stay is the error
`code`. -/
structure RecordError (code : ℚ) (s : Station) : Prop where
  iType : s.gtStation.iType = .tiExit
  known : s.tExit.sIUNo ≠ ""
  calFeeRAM : s.env.calFeeRAM2G (s.asked + 1) s.tExit.sEntryTime (s.env.now s.asked)
    s.tExit.iVehicleType = code
  isError : code < 0

/-- The arguments of `PBSExit` besides the number. -/
structure Reading where
  iDevicetype : DeviceType
  sCardNo : String
  sCardType : ℤ
  sCardBal : ℚ

/-- `PBSExit` comes to charge a stay, in the state `s`, with the error `code`; the vehicle has no
valid season and no complimentary ticket. -/
structure StayError (depth : ℕ) (sIU : String) (reading : Reading) (s₀ : Station) (iRet : ℤ)
    (code : ℚ) (s : Station) : Prop where
  goesOn : pbsExit (enableCashcardAt depth) sIU reading.iDevicetype reading.sCardNo reading.sCardType
      reading.sCardBal s₀ =
    chargeStay (enableCashcardAt depth) iRet reading.iDevicetype reading.sCardNo reading.sCardType
      reading.sCardBal s
  calls : s.calls = s₀.calls
  iType : s.gtStation.iType = .tiExit
  known : s.tExit.sIUNo ≠ ""
  noSeason : iRet ∉ [1, 9, 12]
  notComplimentary : s.tExit.iTransType ≠ 10
  noTicket : (redeemed (stayCharged code s)).tExit.sRedeemNo = "" ∨
    (redeemed (stayCharged code s)).tExit.sRedeemAmt ≠ 0
  calFeeRAM : s.env.calFeeRAM2G (s.asked + 1) (stayFrom iRet s) (s.env.now s.asked)
    s.tExit.iVehicleType = code
  isError : code < 0

/-- A stay under both tariff types costs `first` and `second`, one of which is an error. -/
structure CrossError (tables : Tariff.TypedTables) (fuel : ℕ) (entryTime payTime : String)
    (transType : ℤ) (first second : ℚ) : Prop where
  both : Tariff.usedTariff tables.gtarifftypeinfo entryTime payTime = some (true, true)
  noGrace : ∃ graceTime, CxxText.stoi ((tables.gtariff transType 1).period 0).graceTime =
      some graceTime ∧
    graceTime < Tariff.diffmin (tables.setTime entryTime) (tables.setTime payTime)
  early : ∃ offset, tables.tariffTypeOffset 0 = some offset ∧
    tables.partFee fuel entryTime (tables.gtarifftypeinfo 0).endTime (transType + offset) true =
      some (some first)
  current : ∃ offset, tables.tariffTypeOffset 1 = some offset ∧
    tables.partFee fuel (tables.gtarifftypeinfo 1).startTime payTime (transType + offset) true =
      some (some second)
  isError : Tariff.IsErrorCode first ∨ Tariff.IsErrorCode second

/-- The error of one tariff type is added to the fee of the other. -/
theorem CrossError.calFeeRAM2G {tables : Tariff.TypedTables} {fuel : ℕ} {entryTime payTime : String}
    {transType : ℤ} {first second : ℚ}
    (h : CrossError tables fuel entryTime payTime transType first second) (noGraceTime : Bool) :
    tables.calFeeRAM2G fuel entryTime payTime transType noGraceTime = some (first + second) := by
  obtain ⟨graceTime, hgrace, hlong⟩ := h.noGrace
  obtain ⟨earlyOffset, hearly, hfirst⟩ := h.early
  obtain ⟨currentOffset, hcurrent, hsecond⟩ := h.current
  simp only [Tariff.TypedTables.calFeeRAM2G, h.both, if_true, Tariff.TypedTables.crossFee, hgrace,
    if_neg (not_le.mpr hlong), hearly, hfirst, hcurrent, hsecond, Option.map_some, Option.getD_some]

/-- An error is never respected: it goes into the amount, and the vehicle is released under
`FreeParking` exactly when nothing is left of it; the error of one tariff type is added to the fee
of the other. -/
theorem tariffError_not_respected (depth : ℕ) :
    (∀ code s, RecordError code s →
      let total := totalAmt code (redeemed (recordCharged code s)).tExit
      let s' := after (receivedEntryRecord (enableCashcardAt depth)) s
      (s'.calls.countP isFreeParking = s.calls.countP isFreeParking ↔ 0 < total) ∧
        ¬ErrorRespected total s s') ∧
    (∀ sIU (reading : Reading) s₀ iRet code s, StayError depth sIU reading s₀ iRet code s →
      let total := totalAmt code (redeemed (stayCharged code s)).tExit
      let s' := after (pbsExit (enableCashcardAt depth) sIU reading.iDevicetype reading.sCardNo
        reading.sCardType reading.sCardBal) s₀
      (s'.calls.countP isFreeParking = s₀.calls.countP isFreeParking ↔ 0 < total) ∧
        ¬ErrorRespected total s₀ s') ∧
    ∀ tables fuel entryTime payTime transType first second noGraceTime,
      CrossError tables fuel entryTime payTime transType first second →
      tables.calFeeRAM2G fuel entryTime payTime transType noGraceTime = some (first + second) := by
  refine ⟨?_, ?_, ?_⟩
  · intro code s h total s'
    obtain ⟨hasked, hfree⟩ := receivedEntryRecord_error depth h.iType h.known h.calFeeRAM h.isError
    exact not_errorRespected hasked hfree
  · intro sIU reading s₀ iRet code s h total s'
    obtain ⟨hasked, hfree⟩ := chargeStay_error depth reading.iDevicetype reading.sCardNo
      reading.sCardType reading.sCardBal h.iType h.known h.noSeason h.notComplimentary h.calFeeRAM
      h.isError h.noTicket
    have hafter : s' = after (chargeStay (enableCashcardAt depth) iRet reading.iDevicetype
        reading.sCardNo reading.sCardType reading.sCardBal) s := by
      show after (pbsExit _ _ _ _ _ _) s₀ = _
      rw [after, h.goesOn, after]
    rw [h.calls] at hasked hfree
    rw [hafter]
    exact not_errorRespected hasked hfree
  · intro tables fuel entryTime payTime transType first second noGraceTime h
    exact h.calFeeRAM2G noGraceTime

/-! ## A site without a tariff -/

/-- The tables of a site whose tariff has not been loaded. -/
def noTariff : Tariff.TypedTables where
  toTables := .ofRow (.plain [.plain "08:00:00" "08:00:00" "1" "60" "1"]) {}
  gtarifftypeinfo := fun _ => {}
  setTime := fun _ => 0

/-- An exit of this site, and a vehicle with an entry record. -/
def noTariffExit : Station where
  env :=
    { fetchEntryinfo := fun _ _ =>
        { central := some (some ⟨"2026-01-01 08:00:00", "1", "0", "1"⟩) }
      now := fun _ => "2026-01-01 18:00:00"
      calFeeRAM2G := fun _ entryTime payTime transType =>
        (noTariff.calFeeRAM2G 0 entryTime payTime transType false).getD 0 }
  gtStation := { iType := .tiExit }
  tExit := clearedExit {}

/-- The vehicle when its stay is charged. -/
def noTariffStay : Station :=
  { noTariffExit with
    asked := 4
    tExit := { clearedExit {} with
      sIUNo := "1234567890", sEntryTime := "2026-01-01 08:00:00", bNoEntryRecord := 0
      iEntryID := 1, iTransType := 1 } }

theorem stayError_noTariff :
    StayError 3 "1234567890" ⟨.Ant, "", 0, 0⟩ noTariffExit 8 (-4) noTariffStay where
  goesOn := by with_unfolding_all rfl
  calls := rfl
  iType := rfl
  known := by decide
  noSeason := by decide
  notComplimentary := by decide
  noTicket := Or.inl rfl
  calFeeRAM := by decide +kernel
  isError := by norm_num

theorem tariffError_not_respected_noTariff :
    let total := totalAmt (-4) (redeemed (stayCharged (-4) noTariffStay)).tExit
    let s' := after (pbsExit (enableCashcardAt 3) "1234567890" .Ant "" 0 0) noTariffExit
    (s'.calls.countP isFreeParking = noTariffExit.calls.countP isFreeParking ↔ 0 < total) ∧
      ¬ErrorRespected total noTariffExit s' :=
  (tariffError_not_respected 3).2.1 "1234567890" ⟨.Ant, "", 0, 0⟩ noTariffExit 8 (-4) noTariffStay
    stayError_noTariff

/-- The vehicle is released under `FreeParking` after ten hours. -/
theorem not_tariffError_respected :
    noTariff.calFeeRAM2G 0 "2026-01-01 08:00:00" "2026-01-01 18:00:00" 0 false = some (-4) ∧
      ∀ total, ¬ErrorRespected total noTariffExit
        (history 3 [.antennaIUCome "1234567890"] noTariffExit) := by
  refine ⟨by decide +kernel, ?_⟩
  rintro total ⟨hfree, -⟩
  revert hfree
  decide +kernel

end LinuxPBS.Operation

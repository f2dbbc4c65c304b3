import LinuxPBS.Operation.TicketScan
import LinuxPBS.Operation.Spared

/-!
# An EZ-Link or AXS member that leaves

`PBSExit` opens the barrier for a member at once.  Without a redemption the exit is saved
later.  `Quiet` are the events that leave the member alone until then: they insert nothing,
clear nothing and change no amount (`awaits_serve`).
-/

set_option synthInstance.maxSize 10000

namespace LinuxPBS.Operation

open Handler CxxText Common Db

/-- The rows that have been handed to `insertexittrans`, the newest first. -/
def rowsOf (calls : List Call) : List TExitTrans :=
  calls.filterMap fun
    | .insertexittrans row _ => some row
    | _ => none

/-! ## What the other events leave alone -/

/-- What the record of a member depends on. -/
@[reducible] def memberView (s : Station) :
    List TExitTrans × Bool × TStationType × String × Bool × String × ℚ × ℚ × ℚ × ℚ × Bool × Bool :=
  (rowsOf s.calls, s.tProcess.gbsavedtrans, s.gtStation.iType, s.tEntry.sIUTKNo,
    decide (s.tParas.giEPS = 3), s.tExit.sIUNo, s.tExit.sFee, s.tExit.sRebateAmt,
    s.tExit.sRedeemAmt, s.tExit.sOweAmt, s.tExit.bPayByEZPay, s.tExit.bPayByAXS)

/-- The lane of a known vehicle at an exit without EEP. -/
structure Parked (s : Station) : Prop where
  exit : s.gtStation.iType = .tiExit
  noEntry : s.tEntry.sIUTKNo = ""
  known : s.tExit.sIUNo ≠ ""
  eps : s.tParas.giEPS ≠ 3

theorem Parked.of_view {s t : Station} (hs : Parked s) (hview : memberView t = memberView s) :
    Parked t := by
  simp only [memberView, Prod.mk.injEq] at hview
  obtain ⟨-, -, htype, hentry, heps, hIU, -⟩ := hview
  refine ⟨htype.trans hs.exit, hentry.trans hs.noEntry, ?_, ?_⟩
  · rw [hIU]
    exact hs.known
  · intro h3
    rw [decide_eq_true h3] at heps
    exact hs.eps (of_decide_eq_true heps.symm)

/-- The member is as it is in `s`. -/
structure Awaits (s t : Station) : Prop where
  view : memberView t = memberView s
  parked : Parked t

theorem Awaits.of_view {s t t' : Station} (ht : Awaits s t) (hview : memberView t' = memberView t) :
    Awaits s t' :=
  ⟨hview.trans ht.view, ht.parked.of_view hview⟩

section Walk

variable {s : Station} {depth : ℕ}

instance {α : Type} (m : Op α) [hm : Frames memberView m] : Leads (Awaits s) (Awaits s) m where
  leads t ht := ht.of_view (hm.frames t)

instance (bEnable : Bool) : Leads (Awaits s) (Awaits s) (enableCashcardAt depth bEnable) := by
  have hswitch : Frames memberView (switchReaders bEnable) := by
    unfold switchReaders
    infer_instance
  exact enableCashcardAt_of_findsNone
    (fun t ht => findsNone_known ht.parked.exit ht.parked.known bEnable) depth

instance (iReason : ℤ) : Leads (Awaits s) (Awaits s) (openbarrier iReason) where
  leads t ht := by
    unfold openbarrier
    rw [after_get_bind, after_ite, after_ite, after_pure]
    split
    · exact ht
    split
    · exact ht
    rw [after_modify_bind, after_call_bind]
    dsimp only
    rw [if_neg ht.parked.eps, after_pure]
    exact ht.of_view rfl

instance (obu : String) : Frames memberView (sendMsg2OBU obu) := by
  unfold sendMsg2OBU
  infer_instance

instance (delay : ℕ) : Frames memberView (eepInq delay) := by
  unfold eepInq
  infer_instance

instance (sCmd : ECHUCmd) (sData : String) : Frames memberView (sendMsg2CHU sCmd sData) where
  frames t := by
    unfold sendMsg2CHU
    rw [after_ask_bind, after_ite, after_pure, after_get_bind, after_send_bind, after_ite]
    split
    · rfl
    · split <;> rfl

instance (delay : ℕ) : Frames memberView (chuInq delay) := by
  unfold chuInq
  infer_instance

instance : Frames memberView showFee2User := by
  unfold showFee2User
  infer_instance

instance (eepDelay chuDelay : ℕ) : Frames memberView (inquireAgain eepDelay chuDelay) := by
  unfold inquireAgain
  infer_instance

/-! ### Reads -/

/-- The member is as it is in `s`, and the exit is paid. -/
structure AwaitsPaid (s t : Station) : Prop where
  awaits : Awaits s t
  paid : t.tExit.gbPaid = true

instance {α : Type} (m : Op α) [hm : Frames (fun t => (memberView t, t.tExit.gbPaid)) m] :
    Leads (AwaitsPaid s) (AwaitsPaid s) m where
  leads t ht := by
    have hframes := hm.frames t
    have hview : memberView (after m t) = memberView t := congrArg Prod.fst hframes
    have hpaid : (after m t).tExit.gbPaid = t.tExit.gbPaid := congrArg Prod.snd hframes
    exact ⟨ht.awaits.of_view hview, hpaid.trans ht.paid⟩

instance : Entails (AwaitsPaid s) (Awaits s) := ⟨fun _ ht => ht.awaits⟩

/-- A read behind the payment opens the barrier again, or does nothing. -/
theorem awaits_checkPaid {t : Station} (ht : AwaitsPaid s t) (sCheckNo : String)
    (iDevicetype : DeviceType) (sCardNo : String) (sCardType : ℤ) (sCardBal : ℚ) :
    Awaits s (after (checkPaid (enableCashcardAt depth) sCheckNo iDevicetype sCardNo sCardType
      sCardBal) t) := by
  have hopen : Leads (Awaits s) (Awaits s) (do
      enableCashcardAt depth false
      openbarrier 2) := inferInstance
  rw [checkPaid, after_get_bind, if_pos ht.paid]
  exact hopen.leads t ht.awaits

instance (sCheckNo : String) (iDevicetype : DeviceType) (sCardNo : String) (sCardType : ℤ)
    (sCardBal : ℚ) : Leads (AwaitsPaid s) (Awaits s)
      (checkIUorCardStatus (enableCashcardAt depth) sCheckNo iDevicetype sCardNo sCardType
        sCardBal) where
  leads t ht := by
    rw [checkIUorCardStatus, after_get_bind, after_ite, after_ite]
    split
    · split
      · have hagain : Leads (Awaits s) (Awaits s) (do
            enableCashcardAt depth true
            eepInq 2) := inferInstance
        exact hagain.leads t ht.awaits
      · rw [after_modify_bind]
        refine awaits_checkPaid ⟨ht.awaits.of_view ?_, ?_⟩ _ _ _ _ _
        · rfl
        · exact ht.paid
    · exact awaits_checkPaid ht _ _ _ _ _

/-- A read of the number `sNo` leaves the member alone: the exit is paid, or it is the number
of the vehicle, which waits for no card and is not asked again for an unpaid transaction. -/
structure KnownNumber (s : Station) (sNo : String) : Prop where
  known : sNo = s.tExit.sIUNo
  calm : s.tExit.giDeductionStatus ∉
    [.WaitingCard, .CardExpired, .CardFault, .InsufficientBalance]
  again : ReadAgain s sNo → s.tProcess.gbLastPaidStatus = true

theorem awaits_antennaRead {t : Station} (ht : Awaits s t) {sNo : String}
    (hread : t.tExit.gbPaid = true ∨ KnownNumber t sNo) :
    Awaits s (after (checkIUorCardStatus (enableCashcardAt depth) sNo .Ant "" 0 0) t) := by
  by_cases hpaid : t.tExit.gbPaid = true
  · exact Leads.leads (P := AwaitsPaid s) t ⟨ht, hpaid⟩
  obtain ⟨hknown, hcalm, hagain⟩ := hread.resolve_left hpaid
  have hrefused : ¬cardRefused t.tExit.giDeductionStatus = true := by
    intro hrefused
    cases hstatus : t.tExit.giDeductionStatus <;> rw [hstatus] at hrefused hcalm <;>
      simp_all [cardRefused]
  have hwaiting : t.tExit.giDeductionStatus ≠ .WaitingCard := by
    intro hwaiting
    simp [hwaiting] at hcalm
  have hbalance : ¬balanceChanged t "" 0 := fun hchanged => hchanged.1 rfl
  rw [checkIUorCardStatus, after_get_bind, if_neg hrefused, checkPaid, after_get_bind,
    if_neg hpaid, if_neg hbalance, if_neg (fun h => hwaiting h.1), if_neg hwaiting, firstRead,
    after_ask_bind, after_get_bind]
  dsimp only
  have hasked : Awaits s { t with asked := t.asked + 1 } := ht.of_view rfl
  by_cases hsame : ReadAgain t sNo
  · have hopen : Leads (Awaits s) (Awaits s) (do
        enableCashcardAt depth false
        openbarrier 2) := inferInstance
    rw [if_pos (show _ ∧ _ from hsame), if_pos (hagain hsame)]
    exact hopen.leads _ hasked
  · rw [if_neg (show ¬(_ ∧ _) from hsame), pbsExit, after_get_bind, if_pos hknown, after_pure]
    exact hasked

/-- The antenna or the KSM reads the number of a vehicle. -/
def QuietNumber (s : Station) (sNo : String) : Prop :=
  sNo = "" ∨ (sNo.length = 10 ∧ sNo = s.tProcess.gsDefaultIU) ∨ s.tExit.gbPaid = true ∨
    KnownNumber s sNo

/-- What has been done does not matter to a read. -/
theorem QuietNumber.of_bare {t t' : Station} {sNo : String} (hquiet : QuietNumber t sNo)
    (ht' : bare t' = bare t) : QuietNumber t' sNo := by
  have hbare : QuietNumber (bare t) sNo := by
    rcases hquiet with hempty | hdefault | hpaid | ⟨hknown, hcalm, hagain⟩
    · exact Or.inl hempty
    · exact Or.inr (Or.inl hdefault)
    · exact Or.inr (Or.inr (Or.inl hpaid))
    · exact Or.inr (Or.inr (Or.inr ⟨hknown, hcalm, hagain⟩))
  rw [← ht'] at hbare
  rcases hbare with hempty | hdefault | hpaid | ⟨hknown, hcalm, hagain⟩
  · exact Or.inl hempty
  · exact Or.inr (Or.inl hdefault)
  · exact Or.inr (Or.inr (Or.inl hpaid))
  · exact Or.inr (Or.inr (Or.inr ⟨hknown, hcalm, hagain⟩))

/-- Switching the readers asks nothing. -/
theorem switched_parked {t : Station} (ht : Parked t) (bEnable : Bool) :
    switched bEnable t = { t with tProcess.sEnableReader := bEnable } := by
  unfold switched
  split
  · rename_i hsame
    rw [hsame]
  · rw [if_pos (lookUpLPN_known ht.exit ht.known)]

theorem awaits_of_unsent {t t' : Station} {bEnable : Bool} (ht : Awaits s t)
    (ht' : unsent t' = unsent (switched bEnable t)) : Awaits s t' := by
  rw [switched_parked ht.parked] at ht'
  have hview := congrArg memberView ht'
  have hsame : memberView t' = memberView t := hview
  exact ht.of_view hsame

theorem awaits_vehicleCome {t : Station} (ht : Awaits s t) {sNo : String}
    (hquiet : QuietNumber t sNo) :
    Awaits s (after (vehicleCome (enableCashcardAt depth) sNo) t) := by
  have hexit (t' : Station) (ht' : Awaits s t') : t'.gtStation.iType ≠ .tientry := by
    rw [ht'.parked.exit]
    decide
  rw [vehicleCome]
  dsimp only
  by_cases hempty : sNo = ""
  · rw [if_pos hempty, after_pure]
    exact ht
  rw [if_neg hempty]
  by_cases hlength : sNo.length = 10
  · rw [if_neg (not_not.mpr hlength), after_get_bind]
    by_cases hdefault : sNo.length = 10 ∧ sNo = t.tProcess.gsDefaultIU
    · rw [if_pos hdefault]
      exact ht.of_view rfl
    rw [if_neg hdefault, if_pos hlength]
    refine after_enable_bind
      (findsNone_known ht.parked.exit ht.parked.known false) ht
      (fun t' ht' => awaits_of_unsent ht ht') fun t' ht' => ?_
    have hawaits := awaits_of_unsent ht ht'
    rw [after_get_bind, if_neg (hexit t' hawaits)]
    rw [switched_parked ht.parked] at ht'
    have hoff : QuietNumber { t with tProcess.sEnableReader := false } sNo := by
      rcases hquiet with hempty | hdefault | hpaid | ⟨hknown, hcalm, hagain⟩
      · exact Or.inl hempty
      · exact Or.inr (Or.inl hdefault)
      · exact Or.inr (Or.inr (Or.inl hpaid))
      · exact Or.inr (Or.inr (Or.inr ⟨hknown, hcalm, hagain⟩))
    have hbare := congrArg bare ht'
    have hquiet' : QuietNumber t' sNo := hoff.of_bare hbare
    refine awaits_antennaRead hawaits ((hquiet'.resolve_left hempty).resolve_left ?_)
    have hdefaultIU := congrArg (fun t : Station => t.tProcess.gsDefaultIU) ht'
    have hsame : t'.tProcess.gsDefaultIU = t.tProcess.gsDefaultIU := hdefaultIU
    rw [hsame]
    exact hdefault
  · rw [if_pos hlength, after_send_bind, after_get_bind, if_neg (fun h => hlength h.1),
      if_neg hlength, after_get_bind, if_neg (hexit t ht)]
    have hread := (hquiet.resolve_left hempty).resolve_left fun h => hlength h.1
    refine awaits_antennaRead ?_ ?_
    · exact ht.of_view rfl
    · rcases hread with hpaid | ⟨hknown, hcalm, hagain⟩
      · exact Or.inl hpaid
      · exact Or.inr ⟨hknown, hcalm, hagain⟩

/-! ### Tickets and cards -/

/-- A scan that closes nothing. -/
def QuietScan (s : Station) (skeyedNo : String) : Prop :=
  if s.tExit.sRedeemAmt > 0 then
    ¬(s.tExit.sFee ≥ 1 / 100 ∧
      s.tExit.sFee - s.tExit.sRedeemAmt - s.tExit.sRebateAmt + s.tExit.sOweAmt ≤ 0)
  else ¬ValidTicket s skeyedNo

instance : Leads (Awaits s) (Awaits s) (exitSub (enableCashcardAt depth)) := by
  unfold exitSub
  infer_instance

theorem awaits_ticketScan {t : Station} (ht : Awaits s t) {skeyedNo : String}
    (hquiet : QuietScan t skeyedNo) :
    Awaits s (after (ticketScan (enableCashcardAt depth) skeyedNo) t) := by
  rw [ticketScan, after_get_bind]
  by_cases hredeemed : t.tExit.sRedeemAmt > 0
  · rw [QuietScan, if_pos hredeemed] at hquiet
    rw [if_pos hredeemed, if_neg hquiet]
    exact Leads.leads (P := Awaits s) t ht
  rw [QuietScan, if_neg hredeemed] at hquiet
  rw [if_neg hredeemed]
  refine after_enable_bind (findsNone_known ht.parked.exit ht.parked.known false) ht
    (fun t' ht' => awaits_of_unsent ht ht') fun t' ht' => ?_
  have hawaits := awaits_of_unsent ht ht'
  have hanswer : t'.env.isValidBarCodeTicket t'.asked
      (scannedTicket t skeyedNo).isRedemptionTicket skeyedNo = ticketAnswer t skeyedNo := by
    rw [ticketAnswer]
    rw [switched_parked ht.parked] at ht' ⊢
    have hasked := congrArg (fun t : Station => t.env.isValidBarCodeTicket t.asked) ht'
    exact congrFun (congrFun hasked _) _
  show Awaits s
    (after (useTicket (enableCashcardAt depth) skeyedNo (scannedTicket t skeyedNo)) t')
  rw [useTicket]
  by_cases hrefused : (scannedTicket t skeyedNo).isRefused = true
  · rw [if_pos hrefused]
    exact Leads.leads (P := Awaits s) t' hawaits
  rw [if_neg hrefused]
  by_cases hlength : (scannedTicket t skeyedNo).sCardTkNo.length ≠ 9 ∧
      (scannedTicket t skeyedNo).sCardTkNo.length ≠ 12 ∧
      (scannedTicket t skeyedNo).sCardTkNo.length ≠ 15
  · rw [if_pos hlength]
    exact Leads.leads (P := Awaits s) t' hawaits
  have hinvalid : (ticketAnswer t skeyedNo).iRet ≠ 1 := by
    intro hvalid
    refine hquiet ⟨Bool.eq_false_iff.mpr hrefused, ?_, hvalid⟩
    simp only [List.mem_cons, List.not_mem_nil, or_false]
    omega
  rw [if_neg hlength, after_ask_bind, hanswer, if_neg hinvalid]
  refine Leads.leads (P := Awaits s) _ (hawaits.of_view ?_)
  rfl

/-- `ProcessLCSC` records nothing: there is no deduction, and no card for an unpaid exit. -/
structure QuietLcsc (s : Station) (eventData : String) : Prop where
  undeducted : lastRead stoi "msgStatus" (-101) (pairs eventData) ≠ 6
  unread : lastRead stoi "msgStatus" (-101) (pairs eventData) = 4 →
    (lastText "CAN" (pairs eventData)).length ≠ 16 ∨ s.tExit.gbPaid = true

instance : Leads (Awaits s) (Awaits s) (retryLCSCLastCommand (enableCashcardAt depth)) := by
  unfold retryLCSCLastCommand
  infer_instance

instance (status : EProcessStatus) (reason : String) :
    Leads (Awaits s) (Awaits s) (cardRejected (enableCashcardAt depth) status reason) := by
  unfold cardRejected
  infer_instance

instance (sCardNo : String) : Leads (Awaits s) (Awaits s) (wrongCardNo sCardNo) := by
  unfold wrongCardNo
  infer_instance

theorem awaits_lcscCardID {t : Station} (ht : Awaits s t) (sCardNo : String) :
    Awaits s (after (lcscCardID (enableCashcardAt depth) sCardNo) t) := by
  rw [lcscCardID, after_get_bind, if_pos ht.parked.exit, after_pure]
  exact ht

theorem awaits_lcscBalance {t : Station} (ht : Awaits s t) {sCardNo : String}
    (hunread : sCardNo.length ≠ 16 ∨ t.tExit.gbPaid = true) (sBal : String) :
    Awaits s (after (lcscBalance (enableCashcardAt depth) sCardNo sBal) t) := by
  have hentry : t.gtStation.iType ≠ .tientry := by
    rw [ht.parked.exit]
    decide
  rw [lcscBalance, after_get_bind, if_neg hentry]
  by_cases hlength : sCardNo.length ≠ 16
  · rw [if_pos hlength]
    exact Leads.leads (P := Awaits s) t ht
  · rw [if_neg hlength]
    have henable : Leads (AwaitsPaid s) (AwaitsPaid s) (enableCashcardAt depth false) := by
      have hswitch : Frames (fun t => (memberView t, t.tExit.gbPaid)) (switchReaders false) := by
        unfold switchReaders
        infer_instance
      exact enableCashcardAt_of_findsNone (fun t ht =>
        findsNone_known ht.awaits.parked.exit ht.awaits.parked.known false) depth
    exact Leads.leads (P := AwaitsPaid s) t ⟨ht, hunread.resolve_left hlength⟩

theorem awaits_processLCSC {t : Station} (ht : Awaits s t) {eventData : String}
    (hquiet : QuietLcsc t eventData) :
    Awaits s (after (processLCSC (enableCashcardAt depth) eventData) t) := by
  obtain ⟨hundeducted, hunread⟩ := hquiet
  rw [processLCSC]
  dsimp only
  generalize lastRead stoi "msgStatus" (-101) (pairs eventData) = msg_status at *
  by_cases h3 : msg_status = 3
  · subst h3
    exact awaits_lcscCardID ht _
  by_cases h4 : msg_status = 4
  · subst h4
    exact awaits_lcscBalance ht (hunread rfl) _
  rw [if_neg h3, if_neg h4, if_neg hundeducted]
  exact Leads.leads (P := Awaits s) t ht

/-- `processUPT` records nothing: there is no payment, and no card for an unpaid exit. -/
def QuietUpt (s : Station) (cmd : UptCmd) (eventData : String) : Prop :=
  lastRead (fun value => (stoull value).map (· % 2 ^ 32)) "msgStatus" 8 (pairs eventData) = 0 →
    cmd ≠ .PAYMENT_MODE_AUTO_REQUEST ∧ (cmd = .CARD_DETECT_REQUEST → s.tExit.gbPaid = true)

instance (cardNo : String) (sFee : ℚ) (iDevicetype : DeviceType) (sCardType : ℤ)
    (sCardBal : ℚ) :
    Frames memberView (debitfromReader cardNo sFee iDevicetype sCardType sCardBal) where
  frames t := by
    unfold debitfromReader
    rw [after_get_bind, after_ite, after_pure]
    split
    · rfl
    · rw [after_modify_bind, after_ite]
      split <;> rfl

theorem awaits_uptCardDetect {t : Station} (ht : Awaits s t) {msg_status : ℕ}
    (hunread : msg_status = 0 → t.tExit.gbPaid = true) (event : List (String × String)) :
    Awaits s (after (uptCardDetect (enableCashcardAt depth) msg_status event) t) := by
  rw [uptCardDetect]
  by_cases h0 : msg_status = 0
  · have hread : Leads (AwaitsPaid s) (Awaits s)
        (uptCardDetected (enableCashcardAt depth) event) := by
      unfold uptCardDetected
      infer_instance
    rw [if_pos h0, after_catchException]
    exact hread.leads t ⟨ht, hunread h0⟩
  · rw [if_neg h0]
    exact Leads.leads (P := Awaits s) t ht

theorem awaits_uptPayment {t : Station} (ht : Awaits s t) {msg_status : ℕ}
    (hunpaid : msg_status ≠ 0) (event : List (String × String)) :
    Awaits s (after (uptPayment (enableCashcardAt depth) msg_status event) t) := by
  rw [uptPayment, if_neg hunpaid]
  exact Leads.leads (P := Awaits s) t ht

theorem awaits_processUPT {t : Station} (ht : Awaits s t) {cmd : UptCmd} {eventData : String}
    (hquiet : QuietUpt t cmd eventData) :
    Awaits s (after (processUPT (enableCashcardAt depth) cmd eventData) t) := by
  unfold processUPT QuietUpt at *
  dsimp only
  by_cases hdetect : cmd = .CARD_DETECT_REQUEST
  · rw [if_pos hdetect]
    exact awaits_uptCardDetect ht (fun h0 => (hquiet h0).2 hdetect) _
  rw [if_neg hdetect]
  by_cases hpayment : cmd = .PAYMENT_MODE_AUTO_REQUEST
  · rw [if_pos hpayment]
    exact awaits_uptPayment ht (fun h0 => (hquiet h0).1 hpayment) _
  · rw [if_neg hpayment, after_pure]
    exact ht

/-- A message of the EEP client that is about no OBU and no deduction. -/
def QuietEep (event : EepEvent) : Prop :=
  event.messageStatus = .SUCCESS →
    (∀ transData, event.message ≠ .TRANSACTION_DATA transData) ∧
      ∀ info, event.message ≠ .OBU_INFORMATION_NOTIFICATION info

theorem awaits_processEEP {t : Station} (ht : Awaits s t) {event : EepEvent}
    (hquiet : QuietEep event) : Awaits s (after (processEEP (enableCashcardAt depth) event) t) := by
  obtain ⟨cmd, status, message⟩ := event
  unfold QuietEep at hquiet
  have hend (cmd : CommandType) (message : EepMessage) :
      Awaits s (after (endCommand cmd message) t) := by
    unfold endCommand
    exact Leads.leads (P := Awaits s) t ht
  rw [processEEP, after_catchException]
  dsimp only
  by_cases hsuccess : status = .SUCCESS
  · obtain ⟨hnoDebit, hnoOBU⟩ := hquiet hsuccess
    rw [if_pos hsuccess]
    by_cases hunknown : cmd = .UNKNOWN_REQ_CMD
    · rw [if_pos hunknown]
      cases message with
      | TRANSACTION_DATA transData => exact absurd rfl (hnoDebit transData)
      | OBU_INFORMATION_NOTIFICATION info => exact absurd rfl (hnoOBU info)
      | _ => exact ht
    · rw [if_neg hunknown]
      unfold eepResponse
      split
      · exact absurd rfl (hnoOBU _)
      · exact absurd rfl (hnoDebit _)
      · exact absurd rfl (hnoDebit _)
      · exact Leads.leads (P := Awaits s) t ht
      · exact hend _ _
  · have hfailure : Leads (Awaits s) (Awaits s) (eepFailure (enableCashcardAt depth) cmd status) := by
      unfold eepFailure
      infer_instance
    rw [if_neg hsuccess]
    exact hfailure.leads t ht

/-! ### The loops and the PMS -/

/-- The lane is not cleared, and loop A does not end before the exit is saved. -/
def QuietDio (s : Station) : DioEvent → Prop
  | .LOOP_A_ON_EVENT => False
  | .LOOP_A_OFF_EVENT => s.tProcess.gbsavedtrans = true
  | .LOOP_C_OFF_EVENT => s.tProcess.gbsavedtrans = false ∧ s.env.gbLoopApresent s.asked = true
  | _ => True

/-- The PMS neither turns EEP on nor makes up an entry time. -/
def QuietPms (s : Station) (data : String) : UdpRxCommand → Prop
  | .UpdateParam => (s.env.loadParam s.asked).giEPS ≠ 3
  | .TimeForNoEntry => s.env.gbLoopApresent s.asked = true → (split ',' data).length < 2
  | _ => True

/-- The event leaves the member alone. -/
def Quiet (s : Station) : Event → Prop
  | .antennaFail _ | .ksmCardIn | .ksmCardTakeAway | .lprReceive _ _ => True
  | .antennaIUCome iuNo => QuietNumber { s with asked := s.asked + 1 } iuNo
  | .lcsc eventData => QuietLcsc s eventData
  | .upt cmd eventData => QuietUpt s cmd eventData
  | .dio event => QuietDio s event
  | .ksmCardInfo cardNo =>
      cardNo.length = 16 ∧ substr cardNo 5 4 ≠ some "0005" → QuietNumber s cardNo
  | .barcodeReceived sBarcodedata => QuietScan s sBarcodedata
  | .eep event => QuietEep event
  | .chu _ => s.tProcess.gbBarrierOpened = true
  | .pms command data => QuietPms s data command
  | .loopATimeout => s.env.gbLoopApresent s.asked = false

theorem awaits_loopAGone {t : Station} (ht : Awaits s t) (hsaved : t.tProcess.gbsavedtrans = true) :
    Awaits s (after (loopAGone (enableCashcardAt depth)) t) := by
  have hentry : t.gtStation.iType ≠ .tientry := by
    rw [ht.parked.exit]
    decide
  have hrest : Leads (Awaits s) (Awaits s) (do
      enableCashcardAt depth false
      if (← get).tParas.giEPS = 3 then send .obuInfoStopReq) := inferInstance
  rw [loopAGone, after_get_bind, if_neg hentry, if_neg ht.parked.known, closeLeavingMember,
    bind_assoc, after_get_bind, if_neg (by simp [hsaved]), after_pure_bind]
  exact hrest.leads t ht

theorem awaits_manualOpenBarrier {t : Station} (ht : Awaits s t) :
    Awaits s (after manualOpenBarrier t) := by
  have hentry : ¬(t.gtStation.iType = .tientry ∧ t.tEntry.sIUTKNo ≠ "") :=
    fun h => h.2 ht.parked.noEntry
  rw [manualOpenBarrier, after_get_bind, if_neg hentry, manualOpenExit, after_get_bind,
    if_neg (not_not.mpr ht.parked.noEntry)]
  exact Leads.leads (P := Awaits s) t ht

theorem awaits_handleDioEvent {t : Station} (ht : Awaits s t) {event : DioEvent}
    (hquiet : QuietDio t event) :
    Awaits s (after (handleDioEvent (enableCashcardAt depth) event) t) := by
  cases event with
  | LOOP_A_ON_EVENT => exact hquiet.elim
  | LOOP_A_OFF_EVENT => exact awaits_loopAGone ht hquiet
  | LOOP_C_OFF_EVENT =>
      obtain ⟨hunsaved, hpresent⟩ := hquiet
      rw [handleDioEvent, loopCGone, after_get_bind, if_pos hunsaved, after_ask_bind, hpresent,
        if_pos rfl, after_pure]
      exact ht.of_view rfl
  | BARRIER_STATUS_ON_EVENT =>
      rw [handleDioEvent, after_get_bind, after_ite, after_pure]
      split
      · exact ht
      · exact awaits_manualOpenBarrier ht
  | PRINT_RECEIPT_ON_EVENT =>
      have hprint : Frames memberView printReceipt := by
        unfold printReceipt
        infer_instance
      unfold handleDioEvent
      exact Leads.leads (P := Awaits s) t ht
  | other => exact ht

theorem awaits_processPms {t : Station} (ht : Awaits s t) {command : UdpRxCommand} {data : String}
    (hquiet : QuietPms t data command) :
    Awaits s (after (processPms (enableCashcardAt depth) command data) t) := by
  unfold processPms
  rw [after_catchException]
  cases command with
  | UpdateParam =>
      dsimp only
      rw [after_ask_bind, after_modify]
      have heps : decide ((t.env.loadParam t.asked).giEPS = 3) = decide (t.tParas.giEPS = 3) := by
        rw [decide_eq_false hquiet, decide_eq_false ht.parked.eps]
      refine ht.of_view ?_
      rw [memberView, memberView]
      dsimp only
      rw [heps]
  | CarparkFull =>
      dsimp only
      unfold setCarparkFull
      dsimp only
      rw [after_ite, after_pure, after_get_bind, after_ite, after_pure, after_modify_bind,
        after_ite, after_get_bind, after_ask_bind]
      dsimp only
      rw [if_neg (not_not.mpr ht.parked.noEntry)]
      simp only [after_pure, ite_self]
      split_ifs
      · exact ht
      · exact ht
      all_goals exact ht.of_view rfl
  | OpenBarrier => exact awaits_manualOpenBarrier ht
  | TimeForNoEntry =>
      dsimp only
      rw [timeForNoEntry, after_ask_bind, after_ite]
      split
      · rename_i hpresent
        dsimp only
        rw [if_pos (hquiet hpresent), after_pure]
        exact ht.of_view rfl
      · exact ht.of_view rfl
  | ContinueOpenBarrier =>
      dsimp only
      unfold continueOpenBarrier
      exact Leads.leads (P := Awaits s) t ht
  | CloseBarrier =>
      dsimp only
      unfold manualCloseBarrier closeBarrier
      exact Leads.leads (P := Awaits s) t ht
  | UpdateSetting => exact Leads.leads (P := Awaits s) t ht
  | other => exact ht

/-! ### Every event -/

theorem validTicket_called {t : Station} {event : Event} {skeyedNo : String}
    (hvalid : ValidTicket (called t event) skeyedNo) : ValidTicket t skeyedNo := by
  refine ⟨hvalid.accepted, hvalid.length, ?_⟩
  have hret := hvalid.valid
  rw [ticketAnswer, asked_switched_called] at hret
  exact hret

theorem awaits_handleAntennaIUCome {t : Station} (ht : Awaits s t) {iuNo : String}
    (hquiet : QuietNumber { t with asked := t.asked + 1 } iuNo) :
    Awaits s (after (handleAntennaIUCome (enableCashcardAt depth) iuNo) t) := by
  have hentry (P Q R : Prop) : ¬(P ∧ Q ∧ R ∧ t.gtStation.iType = .tientry) := by
    rintro ⟨-, -, -, hentry⟩
    rw [ht.parked.exit] at hentry
    cases hentry
  rw [handleAntennaIUCome, after_ask_bind, after_get_bind, if_neg (hentry _ _ _)]
  refine awaits_vehicleCome (ht.of_view ?_) hquiet
  rfl

theorem awaits_ksmCardInfo {t : Station} (ht : Awaits s t) {cardNo : String}
    (hquiet : cardNo.length = 16 ∧ substr cardNo 5 4 ≠ some "0005" → QuietNumber t cardNo) :
    Awaits s (after (ksmCardInfo (enableCashcardAt depth) cardNo) t) := by
  rw [ksmCardInfo]
  by_cases hwrong : cardNo.length ≠ 16 ∨ substr cardNo 5 4 = some "0005"
  · rw [if_pos hwrong]
    exact ht.of_view rfl
  · rw [if_neg hwrong, after_get_bind, if_pos ht.parked.noEntry]
    rw [not_or, not_not] at hwrong
    exact awaits_vehicleCome ht (hquiet hwrong)

theorem awaits_ksmCardTakeAway {t : Station} (ht : Awaits s t) :
    Awaits s (after (ksmCardTakeAway (enableCashcardAt depth)) t) := by
  rw [ksmCardTakeAway, after_modify_bind, after_get_bind, if_neg]
  · exact ht.of_view rfl
  · rintro ⟨hentry, -⟩
    have hexit := hentry.symm.trans ht.parked.exit
    cases hexit

theorem awaits_loopATimeoutHandler {t : Station} (ht : Awaits s t)
    (hleft : t.env.gbLoopApresent t.asked = false) :
    Awaits s (after (loopATimeoutHandler (enableCashcardAt depth)) t) := by
  have hstopped : Awaits s { t with sent := .antennaStopRead :: t.sent } := ht.of_view rfl
  rw [loopATimeoutHandler, after_send_bind]
  refine after_enable_bind
    (findsNone_known hstopped.parked.exit hstopped.parked.known false) hstopped
    (fun t' ht' => awaits_of_unsent hstopped ht') fun t' ht' => ?_
  have hawaits := awaits_of_unsent hstopped ht'
  rw [switched_parked hstopped.parked] at ht'
  have hpresent := congrArg (fun t : Station => t.env.gbLoopApresent t.asked) ht'
  have hleft' : t'.env.gbLoopApresent t'.asked = false := hpresent.trans hleft
  rw [after_ask_bind, hleft', if_neg Bool.false_ne_true, after_pure]
  exact hawaits.of_view rfl

/-- A quiet event leaves the member alone. -/
theorem awaits_serve {t : Station} (ht : Awaits s t) {event : Event} (hquiet : Quiet t event) :
    Awaits s (after (serve depth event) t) := by
  have hcalled : Awaits s (called t event) := ht.of_view rfl
  unfold serve
  rw [after_call_bind]
  show Awaits s (after (handleEvent (enableCashcardAt depth) event) (called t event))
  cases event with
  | antennaFail errorCode =>
      have hfail : Leads (Awaits s) (Awaits s)
          (handleAntennaFail (enableCashcardAt depth) errorCode) := by
        unfold handleAntennaFail
        infer_instance
      exact hfail.leads _ hcalled
  | antennaIUCome iuNo =>
      refine awaits_handleAntennaIUCome hcalled (QuietNumber.of_bare hquiet ?_)
      rfl
  | lcsc eventData => exact awaits_processLCSC hcalled ⟨hquiet.undeducted, hquiet.unread⟩
  | upt cmd eventData => exact awaits_processUPT hcalled hquiet
  | dio event => exact awaits_handleDioEvent hcalled hquiet
  | ksmCardIn => exact hcalled.of_view rfl
  | ksmCardTakeAway => exact awaits_ksmCardTakeAway hcalled
  | ksmCardInfo cardNo =>
      refine awaits_ksmCardInfo hcalled fun hcard => (hquiet hcard).of_bare ?_
      rfl
  | lprReceive LPN sTransid =>
      have hplate : Frames memberView (receivedLPR LPN sTransid) := by
        unfold receivedLPR
        infer_instance
      exact Leads.leads (P := Awaits s) (m := receivedLPR LPN sTransid) _ hcalled
  | barcodeReceived sBarcodedata =>
      have hscan : QuietScan t sBarcodedata := hquiet
      refine awaits_ticketScan hcalled ?_
      unfold QuietScan at hscan ⊢
      split <;> rename_i hredeemed
      · rw [if_pos hredeemed] at hscan
        exact hscan
      · rw [if_neg hredeemed] at hscan
        exact fun hvalid => hscan (validTicket_called hvalid)
  | eep event => exact awaits_processEEP hcalled hquiet
  | chu eventData =>
      have hopened : (called t (.chu eventData)).tProcess.gbBarrierOpened = true := hquiet
      show Awaits s (after (processCHU (enableCashcardAt depth) eventData) _)
      rw [processCHU, after_get_bind, if_pos hopened, after_pure]
      exact hcalled
  | pms command data => exact awaits_processPms hcalled hquiet
  | loopATimeout => exact awaits_loopATimeoutHandler hcalled hquiet

end Walk

end LinuxPBS.Operation

import LinuxPBS.Operation.Underway

/-!
# The vehicle under deduction

`Spares s event` covers every event: it says when one that is served while a deduction is
under way leaves the deduction alone.  `GivesUp s event` are the answers behind which the
deduction is over but the vehicle and its amount are the same.  An event that is neither
reads, records or releases a vehicle whose deduction has not been answered.
-/

set_option synthInstance.maxSize 10000

namespace LinuxPBS.Operation

open Handler CxxText Common Db

/-! ## The EEP client -/

/-- `processEEPTransData` leaves the deduction under way alone. -/
structure SparesAnswer (s : Station) (transData : TransactionData) : Prop where
  accepted : transData.resultDeduction ≠ 7
  success : transData.resultDeduction ∈ [1, 2, 8] → Late s transData
  retried : transData.resultDeduction = 9 → FindsNone true s
  unrefused : transData.resultDeduction = 0 → refusedStatus transData = none

/-- `processEEP` leaves the deduction under way alone. -/
structure SparesEep (s : Station) (event : EepEvent) : Prop where
  answer : event.messageStatus = .SUCCESS → ∀ transData, event.message = .TRANSACTION_DATA transData →
    event.commandReqType ∈ [.UNKNOWN_REQ_CMD, .DEDUCT_REQ_CMD, .TRANSACTION_REQ_CMD] →
    SparesAnswer s transData
  information : event.messageStatus = .SUCCESS → event.commandReqType = .GET_OBU_INFO_REQ_CMD →
    ∀ info, event.message = .OBU_INFORMATION_NOTIFICATION info → FindsNone false s
  undetected : event.messageStatus ≠ .SUCCESS → event.commandReqType = .GET_OBU_INFO_REQ_CMD →
    s.env.gbLoopApresent s.asked = true → FindsNone true s
  left : event.messageStatus = .RSP_TIMEOUT → event.commandReqType = .DEDUCT_REQ_CMD →
    s.env.gbLoopApresent s.asked = false

section EEP

variable {s : Station} {depth : ℕ}

theorem debited_processEEPTransData {transData : TransactionData}
    (hspares : SparesAnswer s transData) :
    debited (after (processEEPTransData (enableCashcardAt depth) transData) s) = debited s := by
  obtain ⟨haccepted, hsuccess, hretried, hunrefused⟩ := hspares
  rw [processEEPTransData]
  by_cases hsuccessful : transData.resultDeduction = 1 ∨ transData.resultDeduction = 2 ∨
      transData.resultDeduction = 8
  · have hlate := hsuccess (by simpa using hsuccessful)
    rw [if_pos hsuccessful, eepSuccess, after_get_bind]
    by_cases hlabel : decimalIntToHexString transData.obuLabel 5 = s.tExit.sIUNo
    · have hgone := hlate.resolve_left (not_not.mpr hlabel)
      rw [if_pos hlabel, after_ask_bind, hgone, if_neg Bool.false_ne_true]
      rfl
    · rw [if_neg hlabel]
      rfl
  rw [if_neg hsuccessful, if_neg haccepted]
  by_cases hnine : transData.resultDeduction = 9
  · rw [if_pos hnine, debited_bind]
    exact debited_enableCashcardAt (hretried hnine) depth
  rw [if_neg hnine]
  by_cases hfive : transData.resultDeduction = 5
  · rw [if_pos hfive]
    rfl
  rw [if_neg hfive]
  by_cases hzero : transData.resultDeduction = 0
  · have hnone := hunrefused hzero
    have hbalance : transData.frontendPaymentViolation ≠ 8 := by
      intro h
      rw [refusedStatus, if_pos h] at hnone
      cases hnone
    have hfrontend : transData.frontendPaymentViolation = 0 := by
      by_contra h
      rw [refusedStatus, if_neg hbalance, if_pos h] at hnone
      cases hnone
    have hbackend : transData.backendPaymentViolation = 0 := by
      by_contra h
      rw [refusedStatus, if_neg hbalance, if_neg (not_not.mpr hfrontend), if_pos h] at hnone
      cases hnone
    rw [if_pos hzero, if_neg hbalance, if_neg (not_not.mpr hfrontend),
      if_neg (not_not.mpr hbackend), after_pure]
  · rw [if_neg hzero, after_pure]

theorem after_processOUBInformation (hdoing : s.tExit.giDeductionStatus = .Doingdeduction)
    (info : ObuInformation) :
    after (processOUBInformation (enableCashcardAt depth) info) s = s := by
  rw [processOUBInformation]
  dsimp only
  rw [after_get_bind, if_pos hdoing, after_pure]

theorem debited_eepTailgate (hdoing : s.tExit.giDeductionStatus = .Doingdeduction)
    (info : ObuInformation) :
    debited (after (eepTailgate (enableCashcardAt depth) info) s) = debited s := by
  rw [eepTailgate, after_ask_bind]
  dsimp only
  rw [after_get_bind, after_ite, after_ite]
  split
  · rfl
  · split
    · rw [after_processOUBInformation]
      exact hdoing
    · rfl

theorem debited_eepObuInformation (hdoing : s.tExit.giDeductionStatus = .Doingdeduction)
    (hnone : FindsNone false s) (message : EepMessage) (info : ObuInformation) :
    debited (after (eepObuInformation (enableCashcardAt depth) message info) s) = debited s := by
  rw [eepObuInformation]
  refine debited_enable_bind hnone fun s' hs' => ?_
  have hsame := debited_of_unsent hs'
  have hdoing' : s'.tExit.giDeductionStatus = .Doingdeduction :=
    (congrArg Prod.fst hsame).trans hdoing
  rw [endCommand, after_modify_bind, after_ask_bind, after_ite, after_processOUBInformation, after_pure,
    ite_self]
  · exact hsame
  · exact hdoing'

/-- An event of the EEP client that is spared. -/
theorem debited_processEEP (hdoing : s.tExit.giDeductionStatus = .Doingdeduction) {event : EepEvent}
    (hspares : SparesEep s event) :
    debited (after (processEEP (enableCashcardAt depth) event) s) = debited s := by
  obtain ⟨hanswer, hinformation, hundetected, hleft⟩ := hspares
  obtain ⟨cmd, status, message⟩ := event
  dsimp only at hanswer hinformation hundetected hleft
  have hended (hsuccess : status = .SUCCESS) (transData : TransactionData)
      (hmessage : message = .TRANSACTION_DATA transData)
      (hcmd : cmd ∈ [.UNKNOWN_REQ_CMD, .DEDUCT_REQ_CMD, .TRANSACTION_REQ_CMD]) :
      debited (after (do
        endCommand cmd message
        processEEPTransData (enableCashcardAt depth) transData) s) = debited s := by
    have hspared := hanswer hsuccess transData hmessage hcmd
    rw [endCommand, after_modify_bind]
    refine (debited_processEEPTransData (s := { s with tProcess.fiLastEEPCmd := _ })
      ⟨hspared.accepted, ?_, ?_, hspared.unrefused⟩).trans rfl
    · exact hspared.success
    · exact hspared.retried
  rw [processEEP, after_catchException]
  dsimp only
  by_cases hsuccess : status = .SUCCESS
  · rw [if_pos hsuccess]
    by_cases hunknown : cmd = .UNKNOWN_REQ_CMD
    · rw [if_pos hunknown]
      cases message with
      | TRANSACTION_DATA transData =>
          exact debited_processEEPTransData (hanswer hsuccess transData rfl (by simp [hunknown]))
      | OBU_INFORMATION_NOTIFICATION info => exact debited_eepTailgate hdoing info
      | _ => rfl
    · rw [if_neg hunknown]
      unfold eepResponse
      split
      · exact debited_eepObuInformation hdoing (hinformation hsuccess rfl _ rfl) _ _
      · exact hended hsuccess _ rfl (by simp)
      · exact hended hsuccess _ rfl (by simp)
      · rfl
      · rfl
  · rw [if_neg hsuccess, eepFailure]
    by_cases hinfo : cmd = .GET_OBU_INFO_REQ_CMD
    · rw [if_pos hinfo, after_ask_bind, after_ite]
      split
      · rename_i hpresent
        rw [sendMsg2Server, after_send_bind]
        refine (debited_enableCashcardAt ?_ depth).trans rfl
        exact hundetected hsuccess hinfo hpresent
      · rfl
    · rw [if_neg hinfo]
      by_cases htimeout : cmd = .DEDUCT_REQ_CMD ∧ status = .RSP_TIMEOUT
      · rw [if_pos htimeout, after_ask_bind, hleft htimeout.2 htimeout.1, if_neg Bool.false_ne_true]
        rfl
      · rw [if_neg htimeout, after_pure]

end EEP

/-! ## The CHU -/

/-- `processCHU` leaves the deduction under way alone: it reports no debit, or one that is not
taken for this vehicle. -/
def SparesChu (s : Station) (eventData : String) : Prop :=
  s.tProcess.gbBarrierOpened = true ∨
    ∀ iRC tmpStr, chuReply eventData = some (103, iRC, tmpStr) → iRC ≠ 24 →
      (s.tProcess.fiLastCHUCmd = .iDebit → iRC = 12 ∧ (tmpStr.length ≤ 9 ∨
        stoi (tmpStr.getD 1 "") ≠ some s.gtStation.iAntID ∨ s.tExit.sIUNo ≠ tmpStr.getD 2 "")) ∧
      (s.tProcess.fiLastCHUCmd ≠ .iDebit → iRC = 12 →
        tmpStr.length ≤ 9 ∨ s.tExit.sIUNo ≠ tmpStr.getD 2 "")

theorem chuCode_succ_iff (sCmd : ECHUCmd) : chuCode sCmd + 1 = 103 ↔ sCmd = .iDebit := by
  cases sCmd <;> decide

section CHU

variable {s : Station} {depth : ℕ}

instance : Frames debited updateExit where
  frames s := by
    rw [updateExit, after_get_bind, after_ite]
    split <;> rfl

instance (tmpStr : List String) (i : ℕ) : Frames debited (chuAmount tmpStr i) := by
  unfold chuAmount
  infer_instance

/-- A debit that is reported for another antenna or another vehicle. -/
theorem debited_chuDebited {tmpStr : List String}
    (hother : tmpStr.length ≤ 9 ∨ stoi (tmpStr.getD 1 "") ≠ some s.gtStation.iAntID ∨
      s.tExit.sIUNo ≠ tmpStr.getD 2 "") :
    debited (after (chuDebited (enableCashcardAt depth) 12 tmpStr) s) = debited s := by
  rw [chuDebited, if_pos rfl]
  by_cases hlength : tmpStr.length ≤ 2
  · rcases Nat.lt_or_ge 1 tmpStr.length with hone | hone
    · rw [index_of_lt hone, pure_bind]
      cases hantenna : CxxText.stoi (tmpStr.getD 1 "") with
      | none => rw [orThrow_none, throw_bind, after_throw]
      | some antID =>
          rw [orThrow_some, pure_bind, after_get_bind, index_of_le hlength, throw_bind, after_ite]
          split
          · exact Frames.after_eq debited (modify _ >>= fun _ => chuInq 2) s
          · rw [after_throw]
    · rw [index_of_le hone, throw_bind, after_throw]
  rw [not_le] at hlength
  rw [index_of_lt (show 1 < tmpStr.length by omega), pure_bind, index_of_lt hlength]
  cases hantenna : CxxText.stoi (tmpStr.getD 1 "") with
  | none => rw [orThrow_none, throw_bind, after_throw]
  | some antID =>
      rw [orThrow_some, pure_bind, after_get_bind, pure_bind, after_ite]
      split
      · exact Frames.after_eq debited (modify _ >>= fun _ => chuInq 2) s
      · rename_i hsame
        rw [not_not] at hsame
        rw [after_ite]
        split
        · exact Frames.after_eq debited (modify _ >>= fun _ => chuInq 2) s
        · rename_i hIU
          have hshort : tmpStr.length ≤ 9 := by
            rcases hother with hshort | hantenna' | hIU'
            · exact hshort
            · exact absurd (hantenna.trans (congrArg some hsame)) hantenna'
            · exact absurd hIU' hIU
          rw [index_of_le hshort, throw_bind, after_throw]

/-- A debit of another vehicle is written to `tExit1`. -/
theorem debited_chuLateDebit {tmpStr : List String}
    (hother : tmpStr.length ≤ 9 ∨ s.tExit.sIUNo ≠ tmpStr.getD 2 "") :
    debited (after (chuLateDebit tmpStr) s) = debited s := by
  rw [chuLateDebit]
  by_cases hshort : tmpStr.length ≤ 9
  · rw [index_of_le hshort, throw_bind, after_throw]
  rw [not_le] at hshort
  rw [index_of_lt hshort, pure_bind, index_of_lt (show 2 < tmpStr.length by omega)]
  dsimp only
  rw [after_get_bind, pure_bind, if_neg (hother.resolve_left (by omega)), pure_bind]
  exact Frames.after_eq debited _ s

/-- What a message of the CHU does while a deduction is under way: nothing but to end a command, or
what the answer to a debit does, expected or not. -/
theorem processCHU_underway (hdoing : s.tExit.giDeductionStatus = .Doingdeduction)
    (eventData : String) :
    (∃ fiLastCHUCmd sent, after (processCHU (enableCashcardAt depth) eventData) s =
      { s with tProcess.fiLastCHUCmd := fiLastCHUCmd, sent := sent }) ∨
    (s.tProcess.gbBarrierOpened ≠ true ∧ ∃ iRC tmpStr,
      chuReply eventData = some (103, iRC, tmpStr) ∧ iRC ≠ 24 ∧
      ((s.tProcess.fiLastCHUCmd = .iDebit ∧
        after (processCHU (enableCashcardAt depth) eventData) s =
          after (chuDebited (enableCashcardAt depth) iRC tmpStr)
            { s with tProcess.fiLastCHUCmd := .iInit }) ∨
      (s.tProcess.fiLastCHUCmd ≠ .iDebit ∧ iRC = 12 ∧
        after (processCHU (enableCashcardAt depth) eventData) s = after (chuLateDebit tmpStr) s))) := by
  have hnothing : ∃ fiLastCHUCmd sent, s =
      { s with tProcess.fiLastCHUCmd := fiLastCHUCmd, sent := sent } := ⟨_, _, rfl⟩
  rw [processCHU, after_get_bind]
  by_cases hopened : s.tProcess.gbBarrierOpened = true
  · rw [if_pos hopened, after_pure]
    exact Or.inl hnothing
  rw [if_neg hopened]
  unfold chuReply
  dsimp only
  by_cases hfields : (parseData '[' ']' '|' eventData).length < 4
  · rw [if_pos hfields, after_pure]
    exact Or.inl hnothing
  simp only [if_neg hfields]
  cases hrxcmd : stoi ((parseData '[' ']' '|' eventData).getD 2 "") with
  | none =>
      rw [orThrow_none, throw_bind, after_throw]
      exact Or.inl hnothing
  | some rxcmd =>
  rw [orThrow_some, pure_bind]
  generalize split ',' ((parseData '[' ']' '|' eventData).getD 3 "") = tmpStr
  rcases Nat.eq_zero_or_pos tmpStr.length with hempty | hlength
  · rw [index_of_le hempty.le, throw_bind, after_throw]
    exact Or.inl hnothing
  rw [index_of_lt hlength, pure_bind]
  cases hiRC : stoi (tmpStr.getD 0 "") with
  | none =>
      rw [orThrow_none, throw_bind, after_throw]
      exact Or.inl hnothing
  | some iRC =>
  rw [orThrow_some, pure_bind]
  by_cases hbroken : iRC = 24
  · rw [if_pos hbroken]
    exact Or.inl ⟨_, _, rfl⟩
  rw [if_neg hbroken, after_get_bind]
  by_cases hexpected : chuCode s.tProcess.fiLastCHUCmd + 1 = rxcmd
  · rw [if_pos hexpected, after_modify_bind]
    by_cases h101 : rxcmd = 101
    · rw [if_pos h101, chuInquired, after_get_bind, if_pos (by exact hdoing), after_pure]
      exact Or.inl ⟨_, _, rfl⟩
    rw [if_neg h101]
    by_cases h103 : rxcmd = 103
    · rw [if_pos h103]
      rw [h103, chuCode_succ_iff] at hexpected
      refine Or.inr ⟨hopened, iRC, tmpStr, ?_, hbroken, Or.inl ⟨hexpected, rfl⟩⟩
      simp only [h103, bind, pure, Option.bind_some, if_neg hlength.ne']
    · rw [if_neg h103, after_pure]
      exact Or.inl ⟨_, _, rfl⟩
  · rw [if_neg hexpected]
    by_cases hlate : rxcmd = 103 ∧ iRC = 12
    · rw [if_pos hlate]
      rw [hlate.1, chuCode_succ_iff] at hexpected
      refine Or.inr ⟨hopened, iRC, tmpStr, ?_, hbroken, Or.inr ⟨hexpected, hlate.2, rfl⟩⟩
      simp only [hlate.1, bind, pure, Option.bind_some, if_neg hlength.ne']
    · rw [if_neg hlate, after_pure]
      exact Or.inl hnothing

/-- A message of the CHU that is spared. -/
theorem debited_processCHU (hdoing : s.tExit.giDeductionStatus = .Doingdeduction)
    {eventData : String} (hspares : SparesChu s eventData) :
    debited (after (processCHU (enableCashcardAt depth) eventData) s) = debited s := by
  rcases @processCHU_underway _ depth hdoing eventData with
    ⟨fiLastCHUCmd, sent, hquiet⟩ | ⟨hopened, iRC, tmpStr, hreply, hbroken, hdebit⟩
  · rw [hquiet]
  · obtain ⟨hexpected, hlate⟩ := hspares.resolve_left hopened iRC tmpStr hreply hbroken
    rcases hdebit with ⟨hcmd, hafter⟩ | ⟨hcmd, h12, hafter⟩
    · obtain ⟨h12, hother⟩ := hexpected hcmd
      rw [hafter, h12]
      refine (debited_chuDebited (s := { s with tProcess.fiLastCHUCmd := .iInit }) ?_).trans rfl
      exact hother
    · rw [hafter]
      exact debited_chuLateDebit (hlate hcmd h12)

end CHU

/-! ## The loops, the barrier and the PMS -/

/-- `handleDioEventOnIo` leaves the deduction under way alone: the lane is not cleared and no
member's exit is saved with another amount. -/
def SparesDio (s : Station) : DioEvent → Prop
  | .LOOP_A_ON_EVENT => False
  | .LOOP_A_OFF_EVENT => FindsNone false s ∧
      (s.tExit.sRedeemAmt = 0 ∧ s.tProcess.gbsavedtrans = false →
        s.tExit.bPayByEZPay = true ∨ s.tExit.bPayByAXS = true → SameAmount s)
  | .LOOP_C_OFF_EVENT => s.tProcess.gbsavedtrans = false ∧ s.env.gbLoopApresent s.asked = true
  | .BARRIER_STATUS_ON_EVENT => s.tProcess.gbBarrierOpened = true ∨ ¬Clears s
  | .PRINT_RECEIPT_ON_EVENT | .other => True

/-- `processPmsUdpPacketOnIo` leaves the deduction under way alone. -/
def SparesPms (s : Station) (data : String) : UdpRxCommand → Prop
  | .OpenBarrier => ¬Clears s
  | .TimeForNoEntry => s.env.gbLoopApresent s.asked = true → (split ',' data).length < 2
  | _ => True

/-- The event leaves the deduction under way alone. -/
def Spares (s : Station) : Event → Prop
  | .antennaFail errorCode => s.env.gbLoopApresent s.asked = true ∨
      (errorCode = 2 ∧ s.env.gbLoopApresent (s.asked + 1) = true) → FindsNone true s
  | .antennaIUCome iuNo => SparesNumber { s with asked := s.asked + 1 } iuNo
  | .lcsc eventData => SparesLcsc s eventData
  | .upt cmd eventData => SparesUpt s cmd eventData
  | .dio event => SparesDio s event
  | .ksmCardIn | .ksmCardTakeAway | .lprReceive _ _ => True
  | .ksmCardInfo cardNo =>
      cardNo.length = 16 ∧ substr cardNo 5 4 ≠ some "0005" → SparesNumber s cardNo
  | .barcodeReceived sBarcodedata => SparesTicket s sBarcodedata
  | .eep event => SparesEep s event
  | .chu eventData => SparesChu s eventData
  | .pms command data => SparesPms s data command
  | .loopATimeout => FindsNone false s ∧ s.env.gbLoopApresent (switched false s).asked = false

section Lanes

variable {s : Station} {depth : ℕ}

/-- A member's exit is saved and the barrier stays closed. -/
theorem debited_closeMember (hsame : SameAmount s) {iStatus : TransType}
    (hmember : iStatus = .EZPayParking ∨ iStatus = .AXSParking) :
    debited (after (closeExitOperation iStatus) s) = debited s ∧
      (after (closeExitOperation iStatus) s).tProcess.sEnableReader = s.tProcess.sEnableReader := by
  have hclosed : after (closeExitOperation iStatus) s = after (saveExit >>= fun _ => pure ()) { s with
      calls := .closeExitOperation iStatus s.tExit s.tParas.gfGSTRate :: s.calls
      tExit := closingStatus iStatus s.tExit } := by
    rcases hmember with rfl | rfl <;> rfl
  rw [hclosed, debited_bind]
  have hview (s' : Station) : clearView (after (saveExit >>= fun _ => pure ()) s') = clearView s' :=
    Frames.frames s'
  refine ⟨(debited_saveExit ?_).trans ?_, congrArg (fun view => view.2.2.2.2.2) (hview _)⟩
  · rcases hmember with rfl | rfl <;> exact hsame
  · rcases hmember with rfl | rfl <;> rfl

/-- The readers are switched off, and the OBU is told nothing more. -/
theorem debited_switchOff (hnone : FindsNone false s) :
    debited (after (do
      enableCashcardAt depth false
      if (← get).tParas.giEPS = 3 then send .obuInfoStopReq) s) = debited s := by
  rw [debited_bind]
  exact debited_enableCashcardAt hnone depth

/-- The readers are switched off for a member whose exit is saved. -/
theorem debited_leavingMember (hnone : FindsNone false s) (hsame : SameAmount s)
    {iStatus : TransType} (hmember : iStatus = .EZPayParking ∨ iStatus = .AXSParking) :
    debited (after (do
      enableCashcardAt depth false
      closeExitOperation iStatus
      enableCashcardAt depth false
      if (← get).tParas.giEPS = 3 then send .obuInfoStopReq) s) = debited s := by
  refine debited_enable_bind hnone fun s' hs' => ?_
  have hdebited := debited_of_unsent hs'
  have hreaders : s'.tProcess.sEnableReader = false := by
    have h := congrArg (fun s : Station => s.tProcess.sEnableReader) hs'
    unfold switched at h
    split at h
    · rename_i hoff
      exact h.trans hoff.symm
    · exact h
  have hexit : s'.tExit = s.tExit := by
    have h := congrArg Station.tExit hs'
    unfold switched at h
    split at h <;> exact h
  have hsame' : SameAmount s' := by
    unfold SameAmount
    rw [hexit]
    exact hsame
  obtain ⟨hclosed, hoff⟩ := debited_closeMember hsame' hmember
  rcases after_bind (closeExitOperation iStatus) _ s' with hleft | ⟨⟨⟩, hright⟩
  · rw [hleft, hclosed, hdebited]
  · rw [hright, debited_switchOff (Or.inl (hoff.trans hreaders)), hclosed, hdebited]

theorem debited_loopAGone (hexit : s.gtStation.iType = .tiExit)
    (hspares : SparesDio s .LOOP_A_OFF_EVENT) :
    debited (after (loopAGone (enableCashcardAt depth)) s) = debited s := by
  obtain ⟨hnone, hsame⟩ := hspares
  have hentry : s.gtStation.iType ≠ .tientry := by
    rw [hexit]
    decide
  have hleave : ∀ s', unsent s' = unsent s → debited (after (do
      closeLeavingMember (enableCashcardAt depth)
      enableCashcardAt depth false
      if (← get).tParas.giEPS = 3 then send .obuInfoStopReq) s') = debited s := by
    intro s' hs'
    have hview := congrArg debited hs'
    have hdebited : debited s' = debited s := hview
    have hfinds := (congrArg (FindsNone false) hs').mpr hnone
    have hnone' : FindsNone false s' := hfinds
    have hmembers := (congrArg (fun s : Station =>
      (s.tExit.sRedeemAmt = 0 ∧ s.tProcess.gbsavedtrans = false →
        s.tExit.bPayByEZPay = true ∨ s.tExit.bPayByAXS = true → SameAmount s)) hs').mpr hsame
    have hmember : s'.tExit.sRedeemAmt = 0 ∧ s'.tProcess.gbsavedtrans = false →
        s'.tExit.bPayByEZPay = true ∨ s'.tExit.bPayByAXS = true → SameAmount s' := hmembers
    rw [closeLeavingMember, bind_assoc, after_get_bind]
    by_cases hunsaved : s'.tExit.sRedeemAmt = 0 ∧ s'.tProcess.gbsavedtrans = false
    · rw [if_pos hunsaved]
      by_cases hEZPay : s'.tExit.bPayByEZPay = true
      · rw [if_pos hEZPay, bind_assoc]
        exact (debited_leavingMember hnone' (hmember hunsaved (Or.inl hEZPay)) (Or.inl rfl)).trans hdebited
      · rw [if_neg hEZPay]
        by_cases hAXS : s'.tExit.bPayByAXS = true
        · rw [if_pos hAXS, bind_assoc]
          exact (debited_leavingMember hnone' (hmember hunsaved (Or.inr hAXS)) (Or.inr rfl)).trans hdebited
        · rw [if_neg hAXS, after_pure_bind]
          exact (debited_switchOff hnone').trans hdebited
    · rw [if_neg hunsaved, after_pure_bind]
      exact (debited_switchOff hnone').trans hdebited
  rw [loopAGone, after_get_bind, if_neg hentry]
  by_cases hunknown : s.tExit.sIUNo = ""
  · rw [if_pos hunknown, after_send_bind]
    exact hleave _ rfl
  · rw [if_neg hunknown]
    exact hleave _ rfl

/-- `ManualOpenBarrier` at an exit opens the barrier, since `tEntry` is empty there. -/
theorem debited_manualOpenBarrier (hentry : s.tEntry.sIUTKNo = "") (hstays : ¬Clears s) :
    debited (after manualOpenBarrier s) = debited s := by
  have hnot : ¬(s.gtStation.iType = .tientry ∧ s.tEntry.sIUTKNo ≠ "") := fun h => h.2 hentry
  rw [manualOpenBarrier, after_get_bind, if_neg hnot, manualOpenExit, after_get_bind,
    if_neg (not_not.mpr hentry)]
  exact debited_openbarrier hstays 0

theorem debited_handleDioEvent (hexit : s.gtStation.iType = .tiExit)
    (hentry : s.tEntry.sIUTKNo = "") {event : DioEvent} (hspares : SparesDio s event) :
    debited (after (handleDioEvent (enableCashcardAt depth) event) s) = debited s := by
  cases event with
  | LOOP_A_ON_EVENT => exact hspares.elim
  | LOOP_A_OFF_EVENT => exact debited_loopAGone hexit hspares
  | LOOP_C_OFF_EVENT =>
      obtain ⟨hunsaved, hpresent⟩ := hspares
      rw [handleDioEvent, loopCGone, after_get_bind, if_pos hunsaved, after_ask_bind, hpresent,
        if_pos rfl]
      rfl
  | BARRIER_STATUS_ON_EVENT =>
      rw [handleDioEvent, after_get_bind]
      by_cases hopened : s.tProcess.gbBarrierOpened = true
      · rw [if_pos hopened, after_pure]
      · rw [if_neg hopened]
        exact debited_manualOpenBarrier hentry (hspares.resolve_left hopened)
  | PRINT_RECEIPT_ON_EVENT =>
      rw [handleDioEvent, after_modify_bind, Frames.after_eq debited printReceipt]
  | other => rfl

/-- A command of the PMS that is spared. -/
theorem debited_processPms (hentry : s.tEntry.sIUTKNo = "") {command : UdpRxCommand} {data : String} (hspares : SparesPms s data command) :
    debited (after (processPms (enableCashcardAt depth) command data) s) = debited s := by
  unfold processPms
  rw [after_catchException]
  cases command with
  | CarparkFull =>
      dsimp only
      rw [setCarparkFull]
      dsimp only
      rw [after_ite, after_pure, after_get_bind, after_ite, after_pure, after_modify_bind, after_ite,
        after_get_bind, after_ask_bind]
      dsimp only
      rw [if_neg (not_not.mpr hentry)]
      simp only [after_pure, ite_self]
      split_ifs <;> rfl
  | OpenBarrier => exact debited_manualOpenBarrier hentry hspares
  | TimeForNoEntry =>
      dsimp only
      rw [timeForNoEntry, after_ask_bind, after_ite]
      split
      · rename_i hpresent
        dsimp only
        rw [if_pos (hspares hpresent), after_pure]
      · rfl
  | _ => rfl

end Lanes

/-! ## Every event -/

section Served

variable {s : Station} {depth : ℕ}

theorem debited_handleAntennaFail {errorCode : ℤ}
    (hnone : s.env.gbLoopApresent s.asked = true ∨
      (errorCode = 2 ∧ s.env.gbLoopApresent (s.asked + 1) = true) → FindsNone true s) :
    debited (after (handleAntennaFail (enableCashcardAt depth) errorCode) s) = debited s := by
  have hfail (s' : Station) (hs' : s'.env.gbLoopApresent s'.asked = true → FindsNone true s') :
      debited (after (do
        if (← ask Env.gbLoopApresent) then
          send .antennaStopRead
          enableCashcardAt depth true : Op Unit) s') = debited s' := by
    rw [after_ask_bind, after_ite]
    split
    · rename_i hpresent
      rw [after_send_bind]
      refine (debited_enableCashcardAt ?_ depth).trans rfl
      exact hs' hpresent
    · rfl
  rw [handleAntennaFail]
  by_cases htwo : errorCode = 2
  · rw [if_pos htwo, after_ask_bind]
    by_cases hpresent : s.env.gbLoopApresent s.asked = true
    · rw [if_pos hpresent, after_get_bind, after_ite]
      split
      · rw [debited_bind]
        refine (debited_enableCashcardAt ?_ depth).trans rfl
        exact hnone (Or.inl hpresent)
      · rfl
    · rw [if_neg hpresent]
      refine (hfail { s with asked := s.asked + 1 } ?_).trans rfl
      exact fun hback => hnone (Or.inr ⟨htwo, hback⟩)
  · rw [if_neg htwo]
    exact hfail s fun hpresent => hnone (Or.inl hpresent)

theorem debited_handleAntennaIUCome (hexit : s.gtStation.iType = .tiExit)
    (hdoing : s.tExit.giDeductionStatus = .Doingdeduction) {iuNo : String}
    (hspares : SparesNumber { s with asked := s.asked + 1 } iuNo) :
    debited (after (handleAntennaIUCome (enableCashcardAt depth) iuNo) s) = debited s := by
  have hnot (P Q R : Prop) : ¬(P ∧ Q ∧ R ∧ s.gtStation.iType = .tientry) := by
    rintro ⟨-, -, -, hentry⟩
    rw [hexit] at hentry
    cases hentry
  rw [handleAntennaIUCome, after_ask_bind, after_get_bind, if_neg (hnot _ _ _)]
  refine (debited_vehicleCome ?_ ?_ hspares).trans rfl
  · exact hexit
  · exact hdoing

theorem debited_ksmCardInfo (hexit : s.gtStation.iType = .tiExit) (hentry : s.tEntry.sIUTKNo = "")
    (hdoing : s.tExit.giDeductionStatus = .Doingdeduction) {cardNo : String}
    (hspares : cardNo.length = 16 ∧ substr cardNo 5 4 ≠ some "0005" → SparesNumber s cardNo) :
    debited (after (ksmCardInfo (enableCashcardAt depth) cardNo) s) = debited s := by
  rw [ksmCardInfo]
  by_cases hwrong : cardNo.length ≠ 16 ∨ substr cardNo 5 4 = some "0005"
  · rw [if_pos hwrong]
    rfl
  · rw [if_neg hwrong, after_get_bind, if_pos hentry]
    rw [not_or, not_not] at hwrong
    exact debited_vehicleCome hexit hdoing (hspares hwrong)

theorem debited_ksmCardTakeAway (hexit : s.gtStation.iType = .tiExit) :
    debited (after (ksmCardTakeAway (enableCashcardAt depth)) s) = debited s := by
  rw [ksmCardTakeAway, after_modify_bind, after_get_bind, if_neg]
  · rfl
  · rintro ⟨hentry, -⟩
    rw [hexit] at hentry
    cases hentry

instance (LPN sTransid : String) : Frames debited (receivedLPR LPN sTransid) := by
  unfold receivedLPR
  infer_instance

theorem debited_loopATimeoutHandler (hnone : FindsNone false s)
    (hleft : s.env.gbLoopApresent (switched false s).asked = false) :
    debited (after (loopATimeoutHandler (enableCashcardAt depth)) s) = debited s := by
  rw [loopATimeoutHandler, after_send_bind]
  refine (debited_enable_bind (s := { s with sent := .antennaStopRead :: s.sent }) ?_
    fun s' hs' => ?_).trans rfl
  · exact hnone
  · have hsame := debited_of_unsent hs'
    have hpresent := congrArg (fun s : Station => s.env.gbLoopApresent s.asked) hs'
    have hleft' : s'.env.gbLoopApresent s'.asked = false := by
      refine hpresent.trans ?_
      unfold switched at hleft ⊢
      split at hleft <;> rename_i hswitched
      · rw [if_pos (by exact hswitched)]
        exact hleft
      · rw [if_neg (by exact hswitched)]
        exact hleft
    rw [after_ask_bind, hleft', if_neg Bool.false_ne_true]
    exact hsame

theorem asked_switched_called (bEnable : Bool) (event : Event) :
    (switched bEnable (called s event)).asked = (switched bEnable s).asked := by
  have hbare := (bare_switched bEnable (called s event)).trans (bare_switched bEnable s).symm
  have hasked := congrArg Station.asked hbare
  exact hasked

/-- An event that is spared is served. -/
theorem debited_serve (hexit : s.gtStation.iType = .tiExit) (hentry : s.tEntry.sIUTKNo = "")
    (hdoing : s.tExit.giDeductionStatus = .Doingdeduction) {event : Event} (hspares : Spares s event) :
    debited (after (serve depth event) s) = debited s := by
  have hcalled (m : Op Unit)
      (hm : debited (after m (called s event)) = debited (called s event)) :
      debited (after (do call (.handleEvent event); m) s) = debited s := by
    rw [after_call_bind]
    exact hm.trans rfl
  rw [serve]
  refine hcalled _ ?_
  cases event with
  | antennaFail errorCode => exact debited_handleAntennaFail (s := called s _) hspares
  | antennaIUCome iuNo =>
      refine debited_handleAntennaIUCome (s := called s _) hexit hdoing (SparesNumber.of_bare hspares ?_)
      rfl
  | lcsc eventData =>
      exact debited_processLCSC (s := called s _) hexit hdoing (SparesLcsc.called hspares _)
  | upt cmd eventData => exact debited_processUPT (s := called s _) hdoing (SparesUpt.called hspares _)
  | dio event => exact debited_handleDioEvent (s := called s _) hexit hentry hspares
  | ksmCardIn => rfl
  | ksmCardTakeAway => exact debited_ksmCardTakeAway (s := called s _) hexit
  | ksmCardInfo cardNo =>
      refine debited_ksmCardInfo (s := called s _) hexit hentry hdoing fun hcard =>
        (hspares hcard).of_bare ?_
      rfl
  | lprReceive LPN sTransid => exact Frames.after_eq debited (receivedLPR LPN sTransid) _
  | barcodeReceived sBarcodedata =>
      refine debited_ticketScan (s := called s _)
        ⟨hspares.shown, hspares.scanned, hspares.unlooked, fun hfirst => ?_⟩
      rw [asked_switched_called]
      exact hspares.invalid hfirst
  | eep event =>
      refine debited_processEEP (s := called s _) hdoing
        ⟨fun hstatus transData hmessage hcmd => ?_, hspares.information, hspares.undetected,
          hspares.left⟩
      have hspared := hspares.answer hstatus transData hmessage hcmd
      exact ⟨hspared.accepted, hspared.success, hspared.retried, hspared.unrefused⟩
  | chu eventData => exact debited_processCHU (s := called s _) hdoing hspares
  | pms command data => exact debited_processPms (s := called s _) hentry hspares
  | loopATimeout =>
      refine debited_loopATimeoutHandler (s := called s _) hspares.1 ?_
      rw [asked_switched_called]
      exact hspares.2

end Served

end LinuxPBS.Operation

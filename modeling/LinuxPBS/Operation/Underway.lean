import LinuxPBS.Operation.LateAnswer
import LinuxPBS.Operation.PaidAmount

/-!
# While a deduction is under way

`tExit.giDeductionStatus` is `Doingdeduction` from the request for a deduction on.  Few
procedures look at it: the others read, recompute and close `tExit` as if no device had been
asked.  `Spares s event` says of an event that is served meanwhile when it leaves alone what
the deduction was requested for: its state, the vehicle with its entry time, the amount and
the requests themselves.

An event that looks a vehicle up by its plate, or that opens the barrier under EEP while the
next OBU is waiting, which clears the lane, is not spared.
-/

set_option synthInstance.maxSize 10000

namespace LinuxPBS.Operation

open Handler CxxText Common Db

/-! ## What a deduction is requested for -/

/-- The request that a call is: the device, the card and the text of the request. -/
def Call.request : Call → Option (DeviceType × String × String)
  | .deduct device sCardNo request => some (device, sCardNo, request)
  | _ => none

/-- The deductions that have been requested, the last one first. -/
@[reducible] def requests (s : Station) : List (DeviceType × String × String) :=
  s.calls.filterMap Call.request

/-- What a deduction was requested for, with its state and the requests. -/
@[reducible] def debited (s : Station) :
    EProcessStatus × String × String × ℚ × List (DeviceType × String × String) :=
  (s.tExit.giDeductionStatus, s.tExit.sIUNo, s.tExit.sEntryTime, s.tExit.sPaidAmt, requests s)

/-- What comes behind a procedure and leaves the deduction alone. -/
theorem debited_bind {α β : Type} (m : Op α) (k : α → Op β) [hk : ∀ a, Frames debited (k a)]
    (s : Station) : debited (after (m >>= k) s) = debited (after m s) := by
  rcases after_bind m k s with hleft | ⟨a, hright⟩
  · rw [hleft]
  · rw [hright, (hk a).frames]

section Quiet

instance (delay : ℕ) : Frames debited (eepInq delay) := by
  unfold eepInq
  infer_instance

instance (sData : String) : Frames debited (sendMsg2CHU .iEntryInq sData) := by
  unfold sendMsg2CHU
  simp only [reduceCtorEq, if_false]
  infer_instance

instance (delay : ℕ) : Frames debited (chuInq delay) := by
  unfold chuInq
  infer_instance

instance (eepDelay chuDelay : ℕ) : Frames debited (inquireAgain eepDelay chuDelay) := by
  unfold inquireAgain
  infer_instance

instance (obu : String) : Frames debited (sendMsg2OBU obu) := by
  unfold sendMsg2OBU
  infer_instance

instance (bEnable : Bool) : Frames debited (switchReaders bEnable) := by
  unfold switchReaders
  infer_instance

instance : Frames debited printReceipt := by
  unfold printReceipt
  infer_instance

end Quiet

/-! ## Switching the readers -/

/-- The station without what it has sent. -/
@[reducible] def unsent (s : Station) : Station := { s with sent := [] }

/-- The station after `EnableCashcard`, when it has found no vehicle. -/
def switched (bEnable : Bool) (s : Station) : Station :=
  if bEnable = s.tProcess.sEnableReader then s
  else
    { s with
      tProcess.sEnableReader := bEnable
      asked := if lookUpLPN s = "" then s.asked else s.asked + 1 }

instance (bEnable : Bool) : Frames unsent (switchReaders bEnable) := by
  unfold switchReaders
  infer_instance

theorem unsent_enableCashcardAt {s : Station} {bEnable : Bool} (hnone : FindsNone bEnable s)
    (depth : ℕ) :
    unsent (after (enableCashcardAt (depth + 1) bEnable) s) = unsent (switched bEnable s) := by
  rw [enableCashcardAt, enableCashcardBody, after_get_bind, after_ite, switched]
  by_cases hsame : bEnable = s.tProcess.sEnableReader
  · rw [if_pos hsame, if_pos hsame, after_pure]
  rw [if_neg hsame, if_neg hsame, after_modify_bind, after_get_bind]
  have hlength := hnone.resolve_left (Ne.symm hsame) s.asked
  by_cases hlpn : lookUpLPN s = ""
  · have hlpn' : lookUpLPN { s with tProcess.sEnableReader := bEnable } = "" := hlpn
    simp only [hlpn', ne_eq, not_true_eq_false, if_false, after_pure_bind]
    rw [if_neg (by decide), Frames.after_eq unsent, if_pos hlpn]
  · have hlpn' : lookUpLPN { s with tProcess.sEnableReader := bEnable } = lookUpLPN s := rfl
    rw [lookedUp, if_pos hlpn] at hlength
    simp only [hlpn', ne_eq, hlpn, not_false_eq_true, if_true, after_ask_bind, if_neg hlength]
    rw [Frames.after_eq unsent, if_neg not_false]

theorem debited_switched (bEnable : Bool) (s : Station) :
    debited (switched bEnable s) = debited s := by
  unfold switched
  split <;> rfl

/-- `EnableCashcard` leaves a deduction alone when it finds no vehicle. -/
theorem debited_enableCashcardAt {s : Station} {bEnable : Bool} (hnone : FindsNone bEnable s)
    (depth : ℕ) : debited (after (enableCashcardAt depth bEnable) s) = debited s := by
  cases depth with
  | zero => rw [enableCashcardAt, after_throw]
  | succ depth =>
      have hswitched := congrArg debited (unsent_enableCashcardAt hnone depth)
      exact hswitched.trans (debited_switched bEnable s)

/-- `EnableCashcard`, which finds no vehicle, and what follows it. -/
theorem after_enable_bind {α : Type} {R : Station → Prop} {s : Station} {bEnable : Bool}
    (hnone : FindsNone bEnable s) {depth : ℕ} {k : Unit → Op α} (hstop : R s)
    (hleft : ∀ s', unsent s' = unsent (switched bEnable s) → R s')
    (hk : ∀ s', unsent s' = unsent (switched bEnable s) → R (after (k ()) s')) :
    R (after (enableCashcardAt depth bEnable >>= k) s) := by
  cases depth with
  | zero =>
      rw [enableCashcardAt, throw_bind, after_throw]
      exact hstop
  | succ depth =>
      have hswitched := unsent_enableCashcardAt hnone depth
      rcases after_bind (enableCashcardAt (depth + 1) bEnable) k s with hthrown | ⟨⟨⟩, hright⟩
      · rw [hthrown]
        exact hleft _ hswitched
      · rw [hright]
        exact hk _ hswitched

/-- What follows `EnableCashcard`. -/
theorem debited_enable_bind {α : Type} {s : Station} {bEnable : Bool}
    (hnone : FindsNone bEnable s) {depth : ℕ} {k : Unit → Op α}
    (hk : ∀ s', unsent s' = unsent (switched bEnable s) → debited (after (k ()) s') = debited s) :
    debited (after (enableCashcardAt depth bEnable >>= k) s) = debited s :=
  after_enable_bind (R := fun t => debited t = debited s) hnone rfl
    (fun _ hs' => (congrArg debited hs').trans (debited_switched bEnable s)) hk

/-! ## The barrier -/

/-- `Openbarrier` clears the lane, since the OBU of the next vehicle has been seen. -/
def Clears (s : Station) : Prop :=
  s.tProcess.giCardIsIn ≠ 1 ∧ s.tProcess.giBarrierContinueOpened ≠ 1 ∧ s.tParas.giEPS = 3 ∧
    s.tProcess.gsTailgateOBU ≠ ""

instance (s : Station) : Decidable (Clears s) := inferInstanceAs (Decidable (_ ∧ _))

/-- The deduction is the same as in `s`, and no other OBU has been seen. -/
def Alone (s s' : Station) : Prop :=
  debited s' = debited s ∧ s'.tProcess.gsTailgateOBU = ""

instance {α : Type} (s : Station) (m : Op α)
    [hm : Frames (fun s => (debited s, s.tProcess.gsTailgateOBU)) m] :
    Leads (Alone s) (Alone s) m where
  leads s' hs' := by
    have hview := hm.frames s'
    simp only [Prod.mk.injEq] at hview
    exact ⟨(Prod.ext_iff.mpr ⟨hview.1.1, Prod.ext_iff.mpr ⟨hview.1.2.1, Prod.ext_iff.mpr
      ⟨hview.1.2.2.1, Prod.ext_iff.mpr ⟨hview.1.2.2.2.1, hview.1.2.2.2.2⟩⟩⟩⟩).trans hs'.1,
      hview.2.trans hs'.2⟩

theorem debited_endEEPprocess {s : Station} (hnone : s.tProcess.gsTailgateOBU = "")
    (processingResult : ℤ) : debited (after (endEEPprocess processingResult) s) = debited s := by
  have hstays : Leads (Alone s) (Alone s) (do
      if (← get).tProcess.gsTailgateOBU ≠ "" then
        clearme
        eepInq 0 : Op Unit) := by
    constructor
    intro s' hs'
    rw [after_get_bind, if_neg (not_not.mpr hs'.2), after_pure]
    exact hs'
  have hend : Leads (Alone s) (Alone s) (endEEPprocess processingResult) := by
    unfold endEEPprocess sendMsg2OBU
    dsimp only
    infer_instance
  exact (hend.leads s ⟨rfl, hnone⟩).1

/-- Opening the barrier leaves a deduction alone unless it clears the lane. -/
theorem debited_openbarrier {s : Station} (hstays : ¬Clears s) (iReason : ℤ) :
    debited (after (openbarrier iReason) s) = debited s := by
  rw [openbarrier, after_get_bind]
  by_cases hin : s.tProcess.giCardIsIn = 1
  · rw [if_pos hin, after_pure]
  by_cases hcontinue : s.tProcess.giBarrierContinueOpened = 1
  · rw [if_neg hin, if_pos hcontinue, after_pure]
  rw [if_neg hin, if_neg hcontinue, after_modify_bind, after_call_bind]
  dsimp only
  by_cases heps : s.tParas.giEPS = 3
  · have hnone : s.tProcess.gsTailgateOBU = "" := by
      by_contra hseen
      exact hstays ⟨hin, hcontinue, heps, hseen⟩
    rw [if_pos heps]
    refine (debited_endEEPprocess ?_ iReason).trans ?_
    · exact hnone
    · rfl
  · rw [if_neg heps, after_pure]
    rfl

/-! ## Closing the exit -/

/-- What `SaveExit` leaves alone, besides the lane. -/
@[reducible] def clearView (s : Station) : String × ℤ × ℤ × TParas × String × Bool :=
  (s.tExit.sEntryTime, s.tProcess.giCardIsIn, s.tProcess.giBarrierContinueOpened, s.tParas,
    s.tProcess.gsTailgateOBU, s.tProcess.sEnableReader)

instance : Frames clearView insertexittrans where
  frames _ := rfl

instance (iRet : DBError) : Frames clearView (followUp iRet) := by
  unfold followUp takeAmounts
  dsimp only
  infer_instance

instance (iRet : DBError) : Frames clearView (reportExit iRet) := by
  unfold reportExit
  infer_instance

instance : Frames clearView printReceipt := by
  unfold printReceipt
  infer_instance

instance : Frames clearView (modify fun s => { s with tExit := settleExit s } : Op Unit) where
  frames _ := rfl

instance : Frames clearView saveExit := by
  unfold saveExit
  infer_instance

/-- The exit is recorded with the amount the deduction was requested for. -/
def SameAmount (s : Station) : Prop :=
  s.tExit.sIUNo = "" ∨ outstanding s.tExit = s.tExit.sPaidAmt

theorem debited_saveExit {s : Station} (hsame : SameAmount s) :
    debited (after saveExit s) = debited s := by
  by_cases hIU : s.tExit.sIUNo = ""
  · rw [after_saveExit_unknown hIU]
  obtain ⟨row, ret, hrow, -, hpaid, hsaved⟩ := after_saveExit hIU
  have hlane := hsaved.lane_eq
  simp only [lane, Lane.mk.injEq] at hlane
  have htime : (after saveExit s).tExit.sEntryTime = s.tExit.sEntryTime :=
    congrArg Prod.fst (Frames.after_eq clearView saveExit s)
  have hamount : (after saveExit s).tExit.sPaidAmt = s.tExit.sPaidAmt := by
    rw [hpaid, hrow, ← hsame.resolve_left hIU]
    exact gfeeFormat_gfeeFormat _
  simp only [debited, requests, hlane, htime, hamount]
  rfl

/-- Closing the exit leaves a deduction alone when it records the same amount. -/
theorem debited_closeExitOperation {s : Station} (hsame : SameAmount s) (hstays : ¬Clears s)
    (iStatus : TransType) : debited (after (closeExitOperation iStatus) s) = debited s := by
  obtain ⟨s₁, hclose, hs₁, hsame₁, hstays₁⟩ : ∃ s₁, after (closeExitOperation iStatus) s =
      after (saveExit >>= fun _ => if iStatus ≠ .UpdateCHUTrans ∧ iStatus ≠ .EZPayParking ∧
        iStatus ≠ .AXSParking then openbarrier 0 else pure ()) s₁ ∧
      debited s₁ = debited s ∧ SameAmount s₁ ∧ ¬Clears s₁ := by
    refine ⟨{ s with
      calls := .closeExitOperation iStatus s.tExit s.tParas.gfGSTRate :: s.calls
      tExit := closingStatus iStatus s.tExit }, rfl, ?_, ?_, hstays⟩
    · cases iStatus <;> rfl
    · cases iStatus <;> exact hsame
  have hsaved := debited_saveExit hsame₁
  rw [hclose, ← hs₁]
  rcases after_bind saveExit _ s₁ with hleft | ⟨⟨⟩, hright⟩
  · rw [hleft, hsaved]
  · rw [hright, ← hsaved]
    have hclear : ¬Clears (after saveExit s₁) := by
      have hview := Frames.after_eq clearView saveExit s₁
      simp only [Prod.mk.injEq] at hview
      unfold Clears
      rw [hview.2.1, hview.2.2.1, hview.2.2.2.1, hview.2.2.2.2.1]
      exact hstays₁
    split
    · exact debited_openbarrier hclear 0
    · rw [after_pure]

/-! ## A read -/

/-- The number of the last transaction is read again, soon after it. -/
def ReadAgain (s : Station) (sCheckNo : String) : Prop :=
  sCheckNo = s.tProcess.gsLastPaidTrans ∧
    seconds s.tProcess.lastTransTime (s.env.steadyClock s.asked) ≤ s.tParas.giMaxTransInterval

instance (s : Station) (sCheckNo : String) : Decidable (ReadAgain s sCheckNo) :=
  inferInstanceAs (Decidable (_ ∧ _))

/-- The barrier may be opened for a vehicle that has paid. -/
def OpensAgain (s : Station) : Prop := FindsNone false s ∧ ¬Clears s

/-- `CheckIUorCardStatus` leaves the deduction under way alone: it opens the barrier, it finds the
last transaction unpaid, or it is told the number of the vehicle. -/
structure SparesRead (s : Station) (sCheckNo sCardNo : String) (sCardBal : ℚ) : Prop where
  paid : s.tExit.gbPaid = true → OpensAgain s
  balance : s.tExit.gbPaid = false → balanceChanged s sCardNo sCardBal →
    OpensAgain s ∧ (s.tExit.sPaidAmt = 0 ∨ SameAmount s)
  again : s.tExit.gbPaid = false → ¬balanceChanged s sCardNo sCardBal → ReadAgain s sCheckNo →
    s.tProcess.gbLastPaidStatus = true → OpensAgain s
  known : s.tExit.gbPaid = false → ¬balanceChanged s sCardNo sCardBal →
    ¬(ReadAgain s sCheckNo ∧ (s.tProcess.gbLastPaidStatus = true ∨ 0 < s.tExit.sPaidAmt)) →
    sCheckNo = s.tExit.sIUNo

section Reads

variable {s : Station} {depth : ℕ} {sCheckNo sCardNo : String} {sCardBal : ℚ}
  {iDevicetype : DeviceType}

theorem clears_of_unsent {s' : Station} {bEnable : Bool} (hs' : unsent s' = unsent (switched bEnable s)) :
    Clears s' ↔ Clears s := by
  have hunsent := congrArg Clears hs'
  have hclears : Clears s' = Clears (switched bEnable s) := hunsent
  rw [hclears]
  unfold switched
  split <;> exact Iff.rfl

theorem debited_of_unsent {s' : Station} {bEnable : Bool}
    (hs' : unsent s' = unsent (switched bEnable s)) : debited s' = debited s := by
  have hunsent := congrArg debited hs'
  exact hunsent.trans (debited_switched bEnable s)

/-- The station without what it has done. -/
@[reducible] def bare (s : Station) : Station := { s with calls := [], sent := [] }

/-- What has been done does not matter to a read. -/
theorem SparesRead.of_bare {s' : Station} (hspares : SparesRead s sCheckNo sCardNo sCardBal)
    (hs' : bare s' = bare s) : SparesRead s' sCheckNo sCardNo sCardBal := by
  have hbare : SparesRead (bare s) sCheckNo sCardNo sCardBal :=
    ⟨hspares.paid, hspares.balance, hspares.again, hspares.known⟩
  rw [← hs'] at hbare
  exact ⟨hbare.paid, hbare.balance, hbare.again, hbare.known⟩

/-- The readers are switched off and the barrier is opened. -/
theorem debited_openAgain (hopens : OpensAgain s) (iReason : ℤ) :
    debited (after (do
      enableCashcardAt depth false
      openbarrier iReason) s) = debited s := by
  refine debited_enable_bind hopens.1 fun s' hs' => ?_
  rw [debited_openbarrier (fun hclears => hopens.2 ((clears_of_unsent hs').mp hclears))]
  exact debited_of_unsent hs'

theorem debited_releaseBalanceChange (hopens : OpensAgain s)
    (hsame : s.tExit.sPaidAmt = 0 ∨ SameAmount s) :
    debited (after (releaseBalanceChange (enableCashcardAt depth) sCardNo sCardBal) s) =
      debited s := by
  rw [releaseBalanceChange, after_modify_bind]
  refine debited_enable_bind (s := { s with tProcess.gfLastCardBal := gfeeFormat sCardBal }) ?_
    fun s' hs' => ?_
  · exact hopens.1
  · have hclears : ¬Clears s' := fun hclears =>
      hopens.2 ((clears_of_unsent (s := { s with
        tProcess.gfLastCardBal := gfeeFormat sCardBal }) hs').mp hclears)
    have hdebited : debited s' = debited s :=
      debited_of_unsent (s := { s with tProcess.gfLastCardBal := gfeeFormat sCardBal }) hs'
    have hexit : s'.tExit = s.tExit := by
      have h := congrArg Station.tExit hs'
      unfold switched at h
      split at h <;> exact h
    rw [after_call_bind, after_get_bind]
    by_cases hfree : s'.tExit.sPaidAmt = 0
    · rw [if_pos hfree]
      refine (debited_openbarrier ?_ 2).trans hdebited
      exact hclears
    · rw [if_neg hfree]
      rw [hexit] at hfree
      refine (debited_closeExitOperation ?_ ?_ .BalanceChange).trans hdebited
      · show s'.tExit.sIUNo = "" ∨ outstanding s'.tExit = s'.tExit.sPaidAmt
        rw [hexit]
        exact hsame.resolve_left hfree
      · exact hclears

theorem debited_firstRead (hdoing : s.tExit.giDeductionStatus = .Doingdeduction)
    (hdevice : iDevicetype ∈ [.Ant, .LCSC, .UPOS])
    (hagain : ReadAgain s sCheckNo → s.tProcess.gbLastPaidStatus = true → OpensAgain s)
    (hknown : ¬(ReadAgain s sCheckNo ∧ (s.tProcess.gbLastPaidStatus = true ∨ 0 < s.tExit.sPaidAmt)) →
      sCheckNo = s.tExit.sIUNo) (sCardType : ℤ) :
    debited (after (firstRead (enableCashcardAt depth) sCheckNo iDevicetype sCardNo sCardType
      sCardBal) s) = debited s := by
  have hexit {s' : Station} (hs' : sCheckNo = s'.tExit.sIUNo) :
      after (pbsExit (enableCashcardAt depth) sCheckNo iDevicetype sCardNo sCardType sCardBal) s' =
        s' := by
    rw [pbsExit, after_get_bind, if_pos hs', after_pure]
  rw [firstRead, after_ask_bind, after_get_bind]
  dsimp only
  by_cases hread : ReadAgain s sCheckNo
  · rw [if_pos (show _ ∧ _ from hread)]
    by_cases hpaid : s.tProcess.gbLastPaidStatus = true
    · rw [if_pos hpaid]
      have hopens := hagain hread hpaid
      refine (debited_openAgain (s := { s with asked := s.asked + 1 }) ?_ 2).trans rfl
      exact ⟨hopens.1, hopens.2⟩
    · rw [if_neg hpaid, lastTransUnpaid, after_get_bind]
      dsimp only
      by_cases hfee : 0 < s.tExit.sPaidAmt
      · have hchu (lFee : ℚ) (s' : Station)
            (hs' : s'.tExit.giDeductionStatus = .Doingdeduction) :
            after (chuDebit s.tExit.sIUNo lFee sCardNo sCardBal) s' = s' := by
          rw [chuDebit, after_get_bind, if_pos hs', after_pure]
        have hreader (lFee : ℚ) (s' : Station)
            (hs' : s'.tExit.giDeductionStatus = .Doingdeduction) :
            after (debitfromReader s.tExit.sIUNo lFee iDevicetype sCardType sCardBal) s' = s' := by
          rw [debitfromReader, after_get_bind, if_pos hs', after_pure]
        rw [if_pos hfee]
        by_cases hAnt : iDevicetype = .Ant
        · rw [if_pos hAnt, hchu _ _ (by exact hdoing)]
        · have hEEP : iDevicetype ≠ .EEP := by
            rintro rfl
            simp at hdevice
          have hCHU : iDevicetype ≠ .CHU := by
            rintro rfl
            simp at hdevice
          rw [if_neg hAnt, if_neg hEEP, if_neg hCHU, hreader _ _ (by exact hdoing)]
      · rw [if_neg hfee]
        refine (congrArg debited (hexit ?_)).trans rfl
        exact hknown fun h => h.2.elim hpaid hfee
  · rw [if_neg (show ¬(_ ∧ _) from hread)]
    refine (congrArg debited (hexit ?_)).trans rfl
    exact hknown fun h => hread h.1

/-- A read that is spared. -/
theorem debited_checkIUorCardStatus (hdoing : s.tExit.giDeductionStatus = .Doingdeduction)
    (hdevice : iDevicetype ∈ [.Ant, .LCSC, .UPOS])
    (hspares : SparesRead s sCheckNo sCardNo sCardBal) (sCardType : ℤ) :
    debited (after (checkIUorCardStatus (enableCashcardAt depth) sCheckNo iDevicetype sCardNo
      sCardType sCardBal) s) = debited s := by
  have hrefused : cardRefused s.tExit.giDeductionStatus ≠ true := by
    rw [hdoing]
    decide
  have hwaiting : s.tExit.giDeductionStatus ≠ .WaitingCard := by
    rw [hdoing]
    decide
  rw [checkIUorCardStatus, after_get_bind, if_neg hrefused, checkPaid, after_get_bind]
  by_cases hpaid : s.tExit.gbPaid = true
  · rw [if_pos hpaid]
    exact debited_openAgain (hspares.paid hpaid) 2
  rw [if_neg hpaid]
  rw [Bool.not_eq_true] at hpaid
  by_cases hchanged : balanceChanged s sCardNo sCardBal
  · rw [if_pos hchanged]
    obtain ⟨hopens, hsame⟩ := hspares.balance hpaid hchanged
    exact debited_releaseBalanceChange hopens hsame
  · rw [if_neg hchanged, if_neg (fun h => hwaiting h.1), if_neg hwaiting]
    exact debited_firstRead hdoing hdevice (hspares.again hpaid hchanged)
      (hspares.known hpaid hchanged) sCardType

end Reads

/-! ## The card readers -/

/-- `RetryLCSCLastCommand` only switches the readers off. -/
structure SparesRetry (s : Station) : Prop where
  left : s.env.gbLoopApresent s.asked = false
  findsNone : FindsNone false s

/-- `ProcessLCSC` leaves the deduction under way alone. -/
structure SparesLcsc (s : Station) (eventData : String) : Prop where
  off : lcscStatus eventData = 4 → (lastText "CAN" (pairs eventData)).length = 16 →
    FindsNone false s
  balance : lcscStatus eventData = 4 → (lastText "CAN" (pairs eventData)).length = 16 →
    ∀ balance ∈ stof (lastText "cardBalance" (pairs eventData)),
      SparesRead { switched false s with tExit.iCardStatus := 0 } (lastText "CAN" (pairs eventData))
        (lastText "CAN" (pairs eventData)) (balance / 100)
  unread : lcscStatus eventData = 6 → stof (lastText "BalanceAfterTrans" (pairs eventData)) = none
  flushed : lcscStatus eventData = 8 → s.tProcess.gbBarrierOpened = false → SparesRetry s
  valid : lcscStatus eventData ≠ -18
  failed : lcscStatus eventData ∉ [0, 3, 4, 6, 7, 8, -22, -18] → lcscStatus eventData ∉ lcscIdle →
    SparesRetry s

/-- `processUPT` leaves the deduction under way alone. -/
structure SparesUpt (s : Station) (cmd : UptCmd) (eventData : String) : Prop where
  balance : cmd = .CARD_DETECT_REQUEST → uptStatus eventData = 0 →
    ∀ balance ∈ allRead stof "cardBalance" 0 (pairs eventData),
      (stoi (lastText "cardType" (pairs eventData))).isSome = true →
        SparesRead { s with tExit.iCardStatus := 0 } (lastText "cardCan" (pairs eventData))
          (lastText "cardCan" (pairs eventData)) (roundHalfAway balance / 100)
  unread : cmd = .PAYMENT_MODE_AUTO_REQUEST → uptStatus eventData = 0 →
    centsOf "cardFee" (pairs eventData) = none ∨ centsOf "cardBalance" (pairs eventData) = none ∨
      stoi (lastText "cardType" (pairs eventData)) = none
  left : cmd = .PAYMENT_MODE_AUTO_REQUEST → uptStatus eventData = 2 →
    s.env.gbLoopApresent s.asked = false
  valid : cmd = .PAYMENT_MODE_AUTO_REQUEST → uptStatus eventData = 0 ∨ uptStatus eventData = 2

section Readers

variable {s : Station} {depth : ℕ} {eventData : String}

/-- The station when an event is handed to its handler. -/
@[reducible] def called (s : Station) (event : Event) : Station :=
  { s with calls := .handleEvent event :: s.calls }

theorem SparesLcsc.called (hspares : SparesLcsc s eventData) (event : Event) :
    SparesLcsc (called s event) eventData := by
  obtain ⟨hoff, hbalance, hunread, hflushed, hvalid, hfailed⟩ := hspares
  refine ⟨hoff, fun h4 hlength balance hread => ?_, hunread, fun h8 hclosed => ?_, hvalid,
    fun hother hidle => ?_⟩
  · refine (hbalance h4 hlength balance hread).of_bare ?_
    unfold switched
    split <;> rfl
  · exact ⟨(hflushed h8 hclosed).left, (hflushed h8 hclosed).findsNone⟩
  · exact ⟨(hfailed hother hidle).left, (hfailed hother hidle).findsNone⟩

theorem SparesUpt.called {cmd : UptCmd} (hspares : SparesUpt s cmd eventData) (event : Event) :
    SparesUpt (called s event) cmd eventData := by
  obtain ⟨hbalance, hunread, hleft, hvalid⟩ := hspares
  refine ⟨fun hcmd hzero balance hread htype => ?_, hunread, hleft, hvalid⟩
  refine (hbalance hcmd hzero balance hread htype).of_bare ?_
  rfl

theorem debited_retryLCSCLastCommand (hspares : SparesRetry s) :
    debited (after (retryLCSCLastCommand (enableCashcardAt depth)) s) = debited s := by
  rw [retryLCSCLastCommand, after_ask_bind, hspares.left, if_neg Bool.false_ne_true]
  refine (debited_enableCashcardAt (s := { s with asked := s.asked + 1 }) ?_ depth).trans rfl
  exact hspares.findsNone

theorem debited_lcscBalance (hexit : s.gtStation.iType = .tiExit)
    (hdoing : s.tExit.giDeductionStatus = .Doingdeduction) {sCardNo sBal : String}
    (hoff : sCardNo.length = 16 → FindsNone false s)
    (hread : sCardNo.length = 16 → ∀ balance ∈ stof sBal,
      SparesRead { switched false s with tExit.iCardStatus := 0 } sCardNo sCardNo (balance / 100)) :
    debited (after (lcscBalance (enableCashcardAt depth) sCardNo sBal) s) = debited s := by
  have hentry : s.gtStation.iType ≠ .tientry := by
    rw [hexit]
    decide
  rw [lcscBalance, after_get_bind, if_neg hentry]
  by_cases hlength : sCardNo.length ≠ 16
  · rw [if_pos hlength, wrongCardNo]
    rfl
  rw [if_neg hlength]
  rw [not_not] at hlength
  refine debited_enable_bind (hoff hlength) fun s' hs' => ?_
  have hsame := debited_of_unsent hs'
  rw [after_send_bind, after_modify_bind]
  cases hbalance : CxxText.stof sBal with
  | none =>
      rw [orThrow_none, throw_bind, after_throw]
      exact hsame
  | some balance =>
      rw [orThrow_some, pure_bind]
      refine (debited_checkIUorCardStatus ?_ (by simp) ?_ 1).trans hsame
      · exact (congrArg Prod.fst hsame).trans hdoing
      · have hbare := congrArg (fun s : Station => bare { s with tExit.iCardStatus := 0 }) hs'
        refine (hread hlength balance hbalance).of_bare ?_
        exact hbare

theorem debited_lcscDeducted {sCardNo sBalanceAfterTrans : String}
    (hunread : stof sBalanceAfterTrans = none) :
    debited (after (lcscDeducted sCardNo sBalanceAfterTrans) s) = debited s := by
  have hinvalid : stof "Invalid Input" = none := by decide
  rw [lcscDeducted, after_get_bind, after_ite]
  split
  · rw [after_pure]
  · have hfee : (feeOf "Invalid Input" : Op ℚ) = throw .threw := by
      rw [feeOf, hinvalid, orThrow_none, throw_bind]
    simp only [debitOK, formatToFloatString, hunread, hfee, throw_bind, ne_eq, String.reduceEq,
      not_true_eq_false, not_false_eq_true, if_true, if_false, after_call_bind, after_modify_bind,
      after_throw]
    rfl

/-- An LCSC event that is spared. -/
theorem debited_processLCSC (hexit : s.gtStation.iType = .tiExit)
    (hdoing : s.tExit.giDeductionStatus = .Doingdeduction) (hspares : SparesLcsc s eventData) :
    debited (after (processLCSC (enableCashcardAt depth) eventData) s) = debited s := by
  obtain ⟨hoff, hbalance, hunread, hflushed, hvalid, hfailed⟩ := hspares
  unfold lcscStatus at hoff hbalance hunread hflushed hvalid hfailed
  unfold processLCSC
  dsimp only
  generalize lastRead stoi "msgStatus" (-101) (pairs eventData) = msg_status at *
  by_cases h0 : msg_status = 0
  · rw [if_pos h0, after_ite]
    split <;> rfl
  by_cases h3 : msg_status = 3
  · rw [if_neg h0, if_pos h3, lcscCardID, after_get_bind, if_pos hexit, after_pure]
  by_cases h4 : msg_status = 4
  · rw [if_neg h0, if_neg h3, if_pos h4]
    exact debited_lcscBalance hexit hdoing (hoff h4) (hbalance h4)
  by_cases h6 : msg_status = 6
  · rw [if_neg h0, if_neg h3, if_neg h4, if_pos h6]
    exact debited_lcscDeducted (hunread h6)
  by_cases h7 : msg_status = 7
  · rw [if_neg h0, if_neg h3, if_neg h4, if_neg h6, if_pos h7, after_ite]
    split <;> rfl
  by_cases h8 : msg_status = 8
  · rw [if_neg h0, if_neg h3, if_neg h4, if_neg h6, if_neg h7, if_pos h8, after_get_bind,
      after_ite]
    split
    · exact debited_retryLCSCLastCommand (hflushed h8 ‹_›)
    · rfl
  by_cases h22 : msg_status = -22
  · rw [if_neg h0, if_neg h3, if_neg h4, if_neg h6, if_neg h7, if_neg h8, if_pos h22]
    rfl
  rw [if_neg h0, if_neg h3, if_neg h4, if_neg h6, if_neg h7, if_neg h8, if_neg h22, if_neg hvalid,
    after_ite]
  split
  · rfl
  · exact debited_retryLCSCLastCommand (hfailed (by simp [*]) ‹_›)

theorem debited_uptCardDetected (hdoing : s.tExit.giDeductionStatus = .Doingdeduction)
    {event : List (String × String)}
    (hread : ∀ balance ∈ allRead stof "cardBalance" 0 event,
      (stoi (lastText "cardType" event)).isSome = true →
        SparesRead { s with tExit.iCardStatus := 0 } (lastText "cardCan" event)
          (lastText "cardCan" event) (roundHalfAway balance / 100)) :
    debited (after (uptCardDetected (enableCashcardAt depth) event) s) = debited s := by
  rw [uptCardDetected]
  cases hbalance : allRead CxxText.stof "cardBalance" 0 event with
  | none => rw [orThrow_none, throw_bind, after_throw]
  | some balance =>
      rw [orThrow_some, pure_bind, after_send_bind, after_send_bind, after_modify_bind]
      cases htype : CxxText.stoi (lastText "cardType" event) with
      | none => rw [orThrow_none, throw_bind, after_throw]
      | some card_type =>
          rw [orThrow_some, pure_bind]
          refine (debited_checkIUorCardStatus ?_ (by simp) ?_ (card_type + 6)).trans rfl
          · exact hdoing
          · refine (hread balance hbalance (by rw [htype]; rfl)).of_bare ?_
            rfl

/-- A payment whose text cannot be read. -/
theorem after_uptPaid_unread {event : List (String × String)}
    (hunread : centsOf "cardFee" event = none ∨ centsOf "cardBalance" event = none ∨
      stoi (lastText "cardType" event) = none) : after (uptPaid event) s = s := by
  rw [uptPaid]
  cases hfee : centsOf "cardFee" event with
  | none => rw [orThrow_none, throw_bind, after_throw]
  | some card_fee =>
      rw [orThrow_some, pure_bind]
      cases hbalance : centsOf "cardBalance" event with
      | none => rw [orThrow_none, throw_bind, after_throw]
      | some card_balance =>
          have htype : stoi (lastText "cardType" event) = none := by
            simpa only [hfee, hbalance, reduceCtorEq, false_or] using hunread
          rw [orThrow_some, pure_bind, after_get_bind]
          dsimp only
          rw [htype, orThrow_none, throw_bind, after_throw]

/-- A UPOS event that is spared. -/
theorem debited_processUPT (hdoing : s.tExit.giDeductionStatus = .Doingdeduction) {cmd : UptCmd}
    (hspares : SparesUpt s cmd eventData) :
    debited (after (processUPT (enableCashcardAt depth) cmd eventData) s) = debited s := by
  obtain ⟨hbalance, hunread, hleft, hvalid⟩ := hspares
  unfold uptStatus at hbalance hunread hleft hvalid
  unfold processUPT
  dsimp only
  generalize lastRead (fun value => (stoull value).map (· % 2 ^ 32)) "msgStatus" 8
    (pairs eventData) = msg_status at *
  have hwaiting : s.tExit.giDeductionStatus ≠ .WaitingCard := by
    rw [hdoing]
    decide
  cases cmd with
  | other => rfl
  | CARD_DETECT_REQUEST =>
      rw [if_pos rfl, uptCardDetect]
      by_cases hzero : msg_status = 0
      · rw [if_pos hzero, after_catchException]
        exact debited_uptCardDetected hdoing (hbalance rfl hzero)
      rw [if_neg hzero, after_ite]
      split
      · rw [after_ask_bind, after_ite]
        split
        · rw [after_get_bind, after_ite]
          split <;> rfl
        · rfl
      · rw [after_ite]
        split
        · rw [after_ask_bind, after_ite]
          split
          · rw [after_get_bind, if_neg (fun h => hwaiting h.2.2)]
            rfl
          · rfl
        · rfl
  | PAYMENT_MODE_AUTO_REQUEST =>
      rw [if_neg (by decide), if_pos rfl, uptPayment]
      rcases hvalid rfl with hzero | htwo
      · rw [if_pos hzero, after_catchException, after_uptPaid_unread (hunread rfl hzero)]
      · rw [if_neg (by omega), if_pos htwo, after_ask_bind, hleft rfl htwo,
          if_neg Bool.false_ne_true]
        rfl

end Readers

/-! ## Looking a vehicle up -/

/-- `EnableCashcard` finds no vehicle, now and later. -/
def Unlooked (s : Station) : Prop := ∀ n, (lookedUp n s).length ≠ 10

/-- The deduction with what a look-up depends on. -/
@[reducible] def lookView (s : Station) :
    (EProcessStatus × String × String × ℚ × List (DeviceType × String × String)) ×
      Env × String × TStationType × String × String :=
  (debited s, s.env, s.tProcess.gsTransID, s.gtStation.iType, s.tEntry.sLPN0, s.tExit.sLPN0)

/-- The deduction is the same as in `s`, and no vehicle can be looked up. -/
def Kept (s s' : Station) : Prop := debited s' = debited s ∧ Unlooked s'

theorem unlooked_of_view {s s' : Station} (hview : lookView s' = lookView s) (hs : Unlooked s) :
    Unlooked s' := by
  simp only [Prod.mk.injEq] at hview
  obtain ⟨⟨-, hIU, -, -, -⟩, henv, htrans, hiType, hentry, hexit⟩ := hview
  intro n
  unfold lookedUp lookUpLPN
  rw [hIU, henv, htrans, hiType, hentry, hexit]
  exact hs n

instance {α : Type} (s : Station) (m : Op α) [hm : Frames lookView m] :
    Leads (Kept s) (Kept s) m where
  leads s' hs' :=
    ⟨(congrArg Prod.fst (hm.frames s')).trans hs'.1, unlooked_of_view (hm.frames s') hs'.2⟩

instance (bEnable : Bool) : Frames lookView (switchReaders bEnable) := by
  unfold switchReaders
  infer_instance

instance (delay : ℕ) : Frames lookView (eepInq delay) := by
  unfold eepInq
  infer_instance

instance (sData : String) : Frames lookView (sendMsg2CHU .iEntryInq sData) := by
  unfold sendMsg2CHU
  simp only [reduceCtorEq, if_false]
  infer_instance

instance (delay : ℕ) : Frames lookView (chuInq delay) := by
  unfold chuInq
  infer_instance

instance (eepDelay chuDelay : ℕ) : Frames lookView (inquireAgain eepDelay chuDelay) := by
  unfold inquireAgain
  infer_instance

instance (s : Station) (depth : ℕ) (bEnable : Bool) :
    Leads (Kept s) (Kept s) (enableCashcardAt depth bEnable) :=
  enableCashcardAt_of_findsNone (fun _ hs => Or.inr hs.2) depth

/-! ## Numbers -/

/-- `VehicleCome` leaves the deduction under way alone. -/
def SparesNumber (s : Station) (sNo : String) : Prop :=
  sNo = "" ∨ (sNo.length = 10 ∧ sNo = s.tProcess.gsDefaultIU) ∨
    (sNo.length = 10 ∧ FindsNone false s ∧ SparesRead (switched false s) sNo "" 0) ∨
    (sNo.length ≠ 10 ∧ SparesRead s sNo "" 0)

section Numbers

variable {s : Station} {depth : ℕ}

theorem bare_switched (bEnable : Bool) (s : Station) :
    bare (switched bEnable s) = switched bEnable (bare s) := by
  unfold switched
  by_cases hsame : bEnable = s.tProcess.sEnableReader
  · rw [if_pos hsame, if_pos (show bEnable = (bare s).tProcess.sEnableReader from hsame)]
  · rw [if_neg hsame, if_neg (show ¬bEnable = (bare s).tProcess.sEnableReader from hsame)]
    rfl

theorem SparesNumber.of_bare {s' : Station} {sNo : String} (hspares : SparesNumber s sNo)
    (hs' : bare s' = bare s) : SparesNumber s' sNo := by
  rcases hspares with hempty | ⟨hlength, hdefault⟩ | ⟨hlength, hnone, hread⟩ | ⟨hlength, hread⟩
  · exact Or.inl hempty
  · refine Or.inr (Or.inl ⟨hlength, hdefault.trans ?_⟩)
    exact congrArg (fun s => s.tProcess.gsDefaultIU) hs'.symm
  · refine Or.inr (Or.inr (Or.inl ⟨hlength, ?_, hread.of_bare ?_⟩))
    · have hsame := congrArg (FindsNone false) hs'
      exact hsame.mpr hnone
    · rw [bare_switched, bare_switched, hs']
  · exact Or.inr (Or.inr (Or.inr ⟨hlength, hread.of_bare hs'⟩))

theorem debited_vehicleCome (hexit : s.gtStation.iType = .tiExit)
    (hdoing : s.tExit.giDeductionStatus = .Doingdeduction) {sNo : String}
    (hspares : SparesNumber s sNo) :
    debited (after (vehicleCome (enableCashcardAt depth) sNo) s) = debited s := by
  have hentry {s' : Station} (hs' : s'.gtStation.iType = s.gtStation.iType) :
      s'.gtStation.iType ≠ .tientry := by
    rw [hs', hexit]
    decide
  rw [vehicleCome]
  dsimp only
  by_cases hempty : sNo = ""
  · rw [if_pos hempty, after_pure]
  rw [if_neg hempty]
  by_cases hlength : sNo.length = 10
  · rw [if_neg (not_not.mpr hlength), after_get_bind]
    by_cases hdefault : sNo.length = 10 ∧ sNo = s.tProcess.gsDefaultIU
    · rw [if_pos hdefault]
      rfl
    rw [if_neg hdefault, if_pos hlength]
    obtain ⟨-, hnone, hread⟩ | ⟨hother, -⟩ :=
      (hspares.resolve_left hempty).resolve_left hdefault
    · refine debited_enable_bind hnone fun s' hs' => ?_
      have hsame := debited_of_unsent hs'
      have hiType : s'.gtStation.iType = s.gtStation.iType := by
        have h := congrArg (fun s : Station => s.gtStation.iType) hs'
        unfold switched at h
        split at h <;> exact h
      rw [after_get_bind, if_neg (hentry hiType)]
      refine (debited_checkIUorCardStatus ?_ (by simp) ?_ 0).trans hsame
      · exact (congrArg Prod.fst hsame).trans hdoing
      · have hbare := congrArg bare hs'
        exact hread.of_bare hbare
    · exact absurd hlength hother
  · rw [if_pos hlength, after_send_bind, after_get_bind, if_neg (fun h => hlength h.1), if_neg hlength,
      after_get_bind, if_neg (hentry rfl)]
    obtain ⟨hten, -⟩ | ⟨hten, -, -⟩ | ⟨-, hread⟩ := hspares.resolve_left hempty
    · exact absurd hten hlength
    · exact absurd hten hlength
    · refine (debited_checkIUorCardStatus ?_ (by simp) ?_ 0).trans rfl
      · exact hdoing
      · refine hread.of_bare ?_
        rfl

end Numbers

/-! ## Tickets -/

/-- The amount that is shown is the one the deduction was requested for. -/
def ShownFee (s : Station) : Prop := gfeeFormat (sFee2Pay s.tExit) = s.tExit.sPaidAmt

/-- `ticketScan` shows the fee again: the ticket was scanned before and does not cover it, or it
does not count. -/
structure SparesTicket (s : Station) (skeyedNo : String) : Prop where
  shown : ShownFee s
  scanned : s.tExit.sRedeemAmt > 0 → ¬(s.tExit.sFee ≥ 1 / 100 ∧
    s.tExit.sFee - s.tExit.sRedeemAmt - s.tExit.sRebateAmt + s.tExit.sOweAmt ≤ 0)
  unlooked : ¬s.tExit.sRedeemAmt > 0 → Unlooked s
  invalid : ¬s.tExit.sRedeemAmt > 0 →
    let ticket := readTicketNo s.tParas.giExitTicketRedemption skeyedNo
    ticket.isRefused = true ∨
      (ticket.sCardTkNo.length ≠ 9 ∧ ticket.sCardTkNo.length ≠ 12 ∧ ticket.sCardTkNo.length ≠ 15) ∨
      (s.env.isValidBarCodeTicket (switched false s).asked ticket.isRedemptionTicket skeyedNo).iRet ≠ 1

section Tickets

variable {s : Station} {depth : ℕ}

theorem lookView_showFee2User (hshown : ShownFee s) :
    lookView (after showFee2User s) = lookView s := by
  have hview : lookView (after showFee2User s) =
      lookView { s with tExit.sPaidAmt := gfeeFormat (sFee2Pay s.tExit) } := by
    unfold showFee2User sendMsg2Server sendMsg2OBU
    simp only [after_get_bind, after_send_bind, after_modify_bind, after_ite, after_modify, bind_assoc]
    split <;> rfl
  unfold ShownFee at hshown
  rw [hview, hshown]

/-- The deduction is the same as in `s`, with the amount that is shown. -/
structure Shown (s s' : Station) : Prop where
  kept : Kept s s'
  shown : ShownFee s'

instance : Entails (Shown s) (Kept s) := ⟨fun _ hs => hs.kept⟩

instance {α : Type} (m : Op α) [hm : Frames (fun s => (lookView s, s.tExit)) m] :
    Leads (Shown s) (Shown s) m where
  leads s' hs' := by
    have hview := hm.frames s'
    have hlook : lookView (after m s') = lookView s' := congrArg Prod.fst hview
    have hexit : (after m s').tExit = s'.tExit := congrArg Prod.snd hview
    refine ⟨⟨(congrArg Prod.fst hlook).trans hs'.kept.1, unlooked_of_view hlook hs'.kept.2⟩, ?_⟩
    have hshown := hs'.shown
    unfold ShownFee at hshown ⊢
    rw [hexit]
    exact hshown

instance (obu : String) : Leads (Shown s) (Shown s) (sendMsg2OBU obu) := by
  unfold sendMsg2OBU
  infer_instance

instance : Leads (Shown s) (Kept s) showFee2User where
  leads s' hs' := by
    have hview := lookView_showFee2User hs'.shown
    exact ⟨(congrArg Prod.fst hview).trans hs'.kept.1, unlooked_of_view hview hs'.kept.2⟩

instance : Leads (Shown s) (Kept s) (exitSub (enableCashcardAt depth)) := by
  unfold exitSub
  infer_instance

/-- A scan that is spared. -/
theorem debited_ticketScan {skeyedNo : String} (hspares : SparesTicket s skeyedNo) :
    debited (after (ticketScan (enableCashcardAt depth) skeyedNo) s) = debited s := by
  obtain ⟨hshown, hscanned, hunlooked, hinvalid⟩ := hspares
  rw [ticketScan, after_get_bind]
  by_cases hredeemed : s.tExit.sRedeemAmt > 0
  · rw [if_pos hredeemed, if_neg (hscanned hredeemed)]
    exact congrArg Prod.fst (lookView_showFee2User hshown)
  rw [if_neg hredeemed]
  have hnone := hunlooked hredeemed
  refine debited_enable_bind (Or.inr hnone) fun s' hs' => ?_
  have hdebited := debited_of_unsent hs'
  have hasked : s'.asked = (switched false s).asked ∧ s'.env = s.env := by
    have hcount := congrArg Station.asked hs'
    refine ⟨hcount, ?_⟩
    have henv := congrArg Station.env hs'
    unfold switched at henv
    split at henv <;> exact henv
  have hstart : Shown s s' := by
    have hlook := congrArg Unlooked hs'
    have hshow := congrArg ShownFee hs'
    refine ⟨⟨hdebited, hlook.mpr ?_⟩, hshow.mpr ?_⟩
    · unfold switched
      split <;> exact hnone
    · unfold switched
      split <;> exact hshown
  have hkept (m : Op Unit) [hm : Leads (Shown s) (Kept s) m] : debited (after m s') = debited s :=
    (hm.leads s' hstart).1
  rw [useTicket]
  by_cases hrefused :
      (readTicketNo s.tParas.giExitTicketRedemption skeyedNo).isRefused = true
  · rw [if_pos hrefused]
    exact hkept _
  rw [if_neg hrefused]
  by_cases hlength :
      (readTicketNo s.tParas.giExitTicketRedemption skeyedNo).sCardTkNo.length ≠ 9 ∧
      (readTicketNo s.tParas.giExitTicketRedemption skeyedNo).sCardTkNo.length ≠ 12 ∧
      (readTicketNo s.tParas.giExitTicketRedemption skeyedNo).sCardTkNo.length ≠ 15
  · rw [if_pos hlength]
    exact hkept _
  have hret : (s'.env.isValidBarCodeTicket s'.asked
      (readTicketNo s.tParas.giExitTicketRedemption skeyedNo).isRedemptionTicket skeyedNo).iRet ≠
        1 := by
    rw [hasked.1, hasked.2]
    exact ((hinvalid hredeemed).resolve_left hrefused).resolve_left hlength
  have hanswer (answer : BarCodeAnswer) (hanswer : answer.iRet ≠ 1) (ticket : TicketNo) :
      Leads (Shown s) (Kept s) (do
        if answer.iRet = 1 then
          modify fun s => { s with tExit.sRedeemNo := ticket.sCardTkNo }
          if ticket.isRedemptionTicket then
            redeemTicket (enableCashcardAt depth) ticket.sCardTkNo answer
          else complimentaryTicket (enableCashcardAt depth) ticket.sCardTkNo
        else
          let s ← get
          if s.tParas.giEPS = 3 then sendMsg2OBU s.tExit.sIUNo
          let reason := invalidTicket answer.iRet ticket.isRedemptionTicket
          if reason.isSome then
            sendMsg2Server "90" (ticket.sCardTkNo ++ ",,,,," ++ reason.getD "")
          exitSub (enableCashcardAt depth)) := by
    simp only [if_neg hanswer]
    infer_instance
  rw [if_neg hlength, after_ask_bind]
  refine ((hanswer _ hret (readTicketNo s.tParas.giExitTicketRedemption skeyedNo)).leads _ ?_).1
  exact ⟨⟨hstart.kept.1, hstart.kept.2⟩, hstart.shown⟩

end Tickets

end LinuxPBS.Operation

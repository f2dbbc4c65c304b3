import LinuxPBS.Operation.Lane

/-!
# The walk of a vehicle

`checkIUorCardStatus` and `pbsExit` end in one of a few acts: the exit is closed without a
deduction, a device is asked for one, the barrier opens for a vehicle that has paid, or
`EnableCashcard` is called and may start all over.  Which of them keep a property depends
on the property; that nothing else happens does not, and is proved here.

`P` holds before the act and `Q` behind it.  A property has to say what the acts do to
it, as instances of `Leads P Q`; the instances here then lead from `P` to `Q` through the
text of the procedures.
-/

set_option synthInstance.maxSize 10000

namespace LinuxPBS.Operation

open Handler

/-- `tExit.giDeductionStatus` is set. -/
abbrev setStatus (status : EProcessStatus) : Op Unit :=
  modify fun s => { s with tExit.giDeductionStatus := status }

/-- `tExit.sIUNo` is set. -/
abbrev setVehicle (sIUNo : String) : Op Unit := modify fun s => { s with tExit.sIUNo := sIUNo }

/-- An exit may be closed without a deduction. -/
class Releases (P Q : Station → Prop) : Prop where
  release : ∀ iStatus, iStatus ≠ .DeductionOK → iStatus ≠ .UpdateCHUTrans →
    Leads P Q (closeExitOperation iStatus)

/-- The card that has been read is the last card. -/
abbrev rememberCard (sCardNo : String) (sCardBal : ℚ) : Op Unit := modify fun s => { s with
  tProcess.gsLastCardNo := sCardNo, tProcess.gfLastCardBal := gfeeFormat sCardBal }

/-- A device of this kind that has read this card may be asked for a deduction; the vehicle may be
told to wait for another card unless it was the antenna that has read it.  An OBU is asked after
its card has been remembered, when it has one. -/
class Requests (enableCashcard : Bool → Op Unit) (iDevicetype : DeviceType) (sCardNo : String)
    (sCardBal : ℚ) (P Q : Station → Prop) : Prop where
  antenna : iDevicetype = .Ant → sCardNo = ""
  wait : iDevicetype ≠ .Ant → Leads P P (setStatus .WaitingCard)
  eepDebit : iDevicetype = .EEP → ∃ P', Settled P' ∧
    (if sCardNo = "" then Entails P P' else Leads P P' (rememberCard sCardNo sCardBal)) ∧
    ∀ obu lFee entryTime exitTime, Leads P' Q (eepDebit enableCashcard obu lFee entryTime exitTime)
  chuDebit : ∀ obu lFee, Leads P Q (chuDebit obu lFee sCardNo sCardBal)
  debitfromReader : iDevicetype ∉ [.Ant, .CHU, .EEP] → ∀ cardNo lFee sCardType,
    Leads P Q (debitfromReader cardNo lFee iDevicetype sCardType sCardBal)

section Releases

variable {P Q : Station → Prop} [h : Releases P Q]

instance : Leads P Q (closeExitOperation .FreeParking) := h.release _ (by decide) (by decide)

instance : Leads P Q (closeExitOperation .SeasonParking) := h.release _ (by decide) (by decide)

instance : Leads P Q (closeExitOperation .Complimentary) := h.release _ (by decide) (by decide)

instance : Leads P Q (closeExitOperation .EZPayParking) := h.release _ (by decide) (by decide)

instance : Leads P Q (closeExitOperation .AXSParking) := h.release _ (by decide) (by decide)

instance : Leads P Q (closeExitOperation .BalanceChange) := h.release _ (by decide) (by decide)

instance : Leads P Q (closeExitOperation .Manualopen) := h.release _ (by decide) (by decide)

instance : Leads P Q (closeExitOperation .RejectCode7) := h.release _ (by decide) (by decide)

end Releases

variable {P Q : Station → Prop} {enableCashcard : Bool → Op Unit}
  {iDevicetype : DeviceType} {sCardNo : String} {sCardBal : ℚ}

/-! ## The barrier -/

section Barrier

variable {I : Station → Prop} [Settled I] [Leads I I clearme]

instance (processingResult : ℤ) : Leads I I (endEEPprocess processingResult) := by
  unfold endEEPprocess
  dsimp only
  infer_instance

instance [∀ iReason, Leads I I (call (.openBarrier iReason))] (iReason : ℤ) :
    Leads I I (openbarrier iReason) := by
  unfold openbarrier
  infer_instance

end Barrier

/-! ## The fee -/

instance [Settled P] [Entails P Q] [Releases P Q] : Leads P Q ticketOK := by
  unfold ticketOK
  dsimp only
  infer_instance

section Members

variable [Settled P] [Entails P Q] [Releases P Q] [∀ bEnable, Leads P Q (enableCashcard bEnable)]
  [∀ iReason, Leads Q Q (openbarrier iReason)]

instance : Leads P Q (payByEZPay enableCashcard) := by
  unfold payByEZPay releaseMember
  infer_instance

instance : Leads P Q (payByAXS enableCashcard) := by
  unfold payByAXS releaseMember
  infer_instance

end Members


/-! ## `PBSExit` -/

section Requests

variable [Settled P] [Entails P Q] [h : Requests enableCashcard iDevicetype sCardNo sCardBal P Q]

omit [Settled P] [Entails P Q] in
theorem Requests.eepDebitCard (hEEP : iDevicetype = .EEP) :
    Leads P Q (eepDebitCard enableCashcard sCardNo sCardBal) where
  leads s hs := by
    obtain ⟨P', -, hremember, hdebit⟩ := h.eepDebit hEEP
    unfold Operation.eepDebitCard
    by_cases hcard : sCardNo = ""
    · rw [if_pos hcard] at hremember
      simp only [ne_eq, hcard, not_true_eq_false, if_false, after_get_bind]
      exact (hdebit _ _ _ _).leads s (hremember.entails s hs)
    · rw [if_neg hcard] at hremember
      simp only [ne_eq, hcard, not_false_eq_true, if_true, after_modify_bind, after_get_bind]
      exact (hdebit _ _ _ _).leads _ (hremember.leads s hs)

omit [Settled P] [Entails P Q] in
/-- The card of the OBU is remembered in `tExit`, too. -/
theorem Requests.eepDebitFor (hEEP : iDevicetype = .EEP) (hcard : sCardNo ≠ "")
    (obu : String) (lFee : ℚ) (entryTime exitTime : String) :
    Leads P Q (do
      modify fun s => { s with
        tExit.sCardNo := sCardNo
        tProcess.gsLastCardNo := sCardNo
        tProcess.gfLastCardBal := gfeeFormat sCardBal }
      Operation.eepDebit enableCashcard obu lFee entryTime exitTime) where
  leads s hs := by
    obtain ⟨P', hsettled, hremember, hdebit⟩ := h.eepDebit hEEP
    rw [if_neg hcard] at hremember
    rw [after_modify_bind]
    refine (hdebit obu lFee entryTime exitTime).leads _ ?_
    refine hsettled.settled _ _ ?_ (hremember.leads s hs)
    rfl

instance [∀ bEnable, Leads P Q (enableCashcard bEnable)] (sCardType : ℤ) :
    Leads P Q (payByDevice enableCashcard iDevicetype sCardNo sCardType sCardBal) := by
  have hchu := h.chuDebit
  unfold payByDevice
  by_cases hAnt : iDevicetype = .Ant
  · simp only [if_pos hAnt]
    infer_instance
  have hwait := h.wait hAnt
  by_cases hEEP : iDevicetype = .EEP
  · have hcard := h.eepDebitCard hEEP
    simp only [hEEP, if_true, reduceCtorEq, if_false]
    infer_instance
  by_cases hreader : iDevicetype = .LCSC ∨ iDevicetype = .UPOS
  · have hdebit := h.debitfromReader (by rcases hreader with rfl | rfl <;> decide)
    simp only [if_neg hAnt, if_neg hEEP]
    infer_instance
  · simp only [if_neg hAnt, if_neg hEEP, if_neg hreader]
    infer_instance

end Requests

section PBSExit

variable [Settled P] [Entails P Q] [Releases P Q]
  [∀ bEnable, Leads P Q (enableCashcard bEnable)] [∀ iReason, Leads Q Q (openbarrier iReason)]
  [Requests enableCashcard iDevicetype sCardNo sCardBal P Q]

instance (sCardType : ℤ) :
    Leads P Q (payAmount enableCashcard iDevicetype sCardNo sCardType sCardBal) := by
  unfold payAmount
  infer_instance

variable [∀ bEnable, Leads Q Q (enableCashcard bEnable)]

instance (sCardType : ℤ) :
    Leads P Q (payFee enableCashcard iDevicetype sCardNo sCardType sCardBal) := by
  unfold payFee
  dsimp only
  infer_instance

instance (sIU : String) (sCardType : ℤ) : Leads P Q
    (chargeWithoutEntry enableCashcard sIU iDevicetype sCardNo sCardType sCardBal) := by
  unfold chargeWithoutEntry
  infer_instance

instance (iRet sCardType : ℤ) :
    Leads P Q (chargeStay enableCashcard iRet iDevicetype sCardNo sCardType sCardBal) := by
  unfold chargeStay
  dsimp only
  infer_instance

instance (sIU : String) (sCardType : ℤ) :
    Leads P Q (chargeVehicle enableCashcard sIU iDevicetype sCardNo sCardType sCardBal) := by
  unfold chargeVehicle
  dsimp only
  infer_instance

instance (sIU : String) [Leads P P (setVehicle sIU)] (sCardType : ℤ) :
    Leads P Q (pbsExit enableCashcard sIU iDevicetype sCardNo sCardType sCardBal) := by
  unfold pbsExit
  dsimp only
  infer_instance

end PBSExit

/-! ## `CheckIUorCardStatus` -/

/-- What a read does to a property, besides the acts: `R` holds when a vehicle or a card is read. -/
class Reads (enableCashcard : Bool → Op Unit) (sCardNo : String) (sCardBal : ℚ)
    (R P Q : Station → Prop) : Prop where
  ready : ∀ s, R s → s.tExit.gbPaid = false → P s
  recover : ∀ s, R s → cardRefused s.tExit.giDeductionStatus = true →
    R { s with tExit.giDeductionStatus := .WaitingCard }
  balance : ∀ s, R s → s.tExit.gbPaid = false → balanceChanged s sCardNo sCardBal →
    Q (after (releaseBalanceChange enableCashcard sCardNo sCardBal) s)

section Reads

variable [Settled P] [Settled Q] [Entails P Q] [Releases P Q]
  [∀ bEnable, Leads P Q (enableCashcard bEnable)] [∀ bEnable, Leads Q Q (enableCashcard bEnable)]
  [∀ iReason, Leads Q Q (openbarrier iReason)]
  [h : Requests enableCashcard iDevicetype sCardNo sCardBal P Q]

omit [Releases P Q] [∀ iReason, Leads Q Q (openbarrier iReason)] h in
instance : Leads P Q (askForCard enableCashcard iDevicetype) := by
  unfold askForCard
  infer_instance

omit [∀ iReason, Leads Q Q (openbarrier iReason)] in
instance (sCardType : ℤ) :
    Leads P Q (cardForFee enableCashcard iDevicetype sCardNo sCardType sCardBal) := by
  have hchu := h.chuDebit
  unfold cardForFee
  by_cases hcard : sCardNo = ""
  · simp only [hcard, ne_eq, not_true_eq_false, and_false, if_false]
    infer_instance
  by_cases hEEP : iDevicetype = .EEP
  · have hdebit := h.eepDebitFor hEEP hcard
    simp only [if_pos hEEP]
    infer_instance
  by_cases hCHU : iDevicetype = .CHU
  · simp only [hCHU, if_true, reduceCtorEq, if_false]
    infer_instance
  · have hAnt : iDevicetype ≠ .Ant := fun hAnt => hcard (h.antenna hAnt)
    have hreader := h.debitfromReader (by simp [hAnt, hEEP, hCHU])
    simp only [if_neg hEEP, hCHU, false_and, if_false]
    infer_instance

instance (sCheckNo : String) [Leads P P (setVehicle sCheckNo)] (sCardType : ℤ) :
    Leads P Q (lastTransUnpaid enableCashcard sCheckNo iDevicetype sCardNo sCardType sCardBal) := by
  have hchu := h.chuDebit
  unfold lastTransUnpaid
  by_cases hAnt : iDevicetype = .Ant
  · simp only [if_pos hAnt]
    infer_instance
  have hwait := h.wait hAnt
  by_cases hEEP : iDevicetype = .EEP
  · have hcard := h.eepDebitCard hEEP
    simp only [if_pos hEEP, if_neg hAnt]
    infer_instance
  by_cases hCHU : iDevicetype = .CHU
  · simp only [if_neg hAnt, if_neg hEEP, if_pos hCHU]
    infer_instance
  · have hreader := h.debitfromReader (by simp [hAnt, hEEP, hCHU])
    simp only [if_neg hAnt, if_neg hEEP, if_neg hCHU]
    infer_instance

instance (sCheckNo : String) [Leads P P (setVehicle sCheckNo)] (sCardType : ℤ) :
    Leads P Q (firstRead enableCashcard sCheckNo iDevicetype sCardNo sCardType sCardBal) := by
  unfold firstRead
  infer_instance

variable {R : Station → Prop} [Entails R Q] {sCheckNo : String} [Leads P P (setVehicle sCheckNo)]

/-- The walk of a vehicle from the paid status on. -/
theorem Reads.checkPaid_leads (hreads : Reads enableCashcard sCardNo sCardBal R P Q)
    (sCardType : ℤ) :
    Leads R Q (checkPaid enableCashcard sCheckNo iDevicetype sCardNo sCardType sCardBal) where
  leads s hs := by
    unfold checkPaid
    rw [after_get_bind]
    by_cases hpaid : s.tExit.gbPaid
    · rw [if_pos hpaid]
      have hopen : Leads Q Q (do
        enableCashcard false
        openbarrier 2) := inferInstance
      exact hopen.leads s (Entails.entails s hs)
    · have hunpaid : s.tExit.gbPaid = false := Bool.not_eq_true _ ▸ hpaid
      have hP := hreads.ready s hs hunpaid
      rw [if_neg hpaid, after_ite]
      split
      · rename_i hchanged
        exact hreads.balance s hs hunpaid hchanged
      · rw [after_ite]
        split
        · exact Leads.leads s hP
        · rw [after_ite]
          split
          · exact Leads.leads s hP
          · exact Leads.leads s hP

/-- The walk of a vehicle that has been read. -/
theorem Reads.checkIUorCardStatus_leads (hreads : Reads enableCashcard sCardNo sCardBal R P Q)
    (sCardType : ℤ) :
    Leads R Q
      (checkIUorCardStatus enableCashcard sCheckNo iDevicetype sCardNo sCardType sCardBal) where
  leads s hs := by
    have hpaid : Leads R Q
        (checkPaid enableCashcard sCheckNo iDevicetype sCardNo sCardType sCardBal) :=
      hreads.checkPaid_leads sCardType
    unfold checkIUorCardStatus
    rw [after_get_bind]
    by_cases hrefused : cardRefused s.tExit.giDeductionStatus = true
    · rw [if_pos hrefused, after_ite]
      split
      · have hagain : Leads Q Q (do
          enableCashcard true
          eepInq 2) := inferInstance
        exact hagain.leads s (Entails.entails s hs)
      · rw [after_modify_bind]
        exact hpaid.leads _ (hreads.recover s hs hrefused)
    · rw [if_neg hrefused]
      exact hpaid.leads s hs

end Reads

/-! ## `EnableCashcard` -/

/-- A property of exits. -/
class AtExit (Q : Station → Prop) : Prop where
  atExit : ∀ s, Q s → s.gtStation.iType = .tiExit

theorem AtExit.not_entry {s : Station} [h : AtExit Q] (hs : Q s) :
    s.gtStation.iType ≠ .tientry := by
  rw [h.atExit s hs]
  decide

/-- Nothing of the entry side is done. -/
instance {α : Type} [hexit : AtExit P] {entry exit : Station → Op α} [h : ∀ s, Leads P Q (exit s)] :
    Leads P Q (get >>= fun s => if s.gtStation.iType = .tientry then entry s else exit s) where
  leads s hs := by
    rw [after_get_bind, if_neg (hexit.not_entry hs)]
    exact (h s).leads s hs

section EnableCashcard

variable [Settled Q] [AtExit Q]

theorem vehicleCome_leads (henable : ∀ bEnable, Leads Q Q (enableCashcard bEnable))
    (hcheck : ∀ sNo, sNo ≠ "" → Leads Q Q (checkIUorCardStatus enableCashcard sNo .Ant "" 0 0))
    (sNo : String) : Leads Q Q (vehicleCome enableCashcard sNo) := by
  unfold vehicleCome
  dsimp only
  by_cases hempty : sNo = ""
  · simp only [if_pos hempty]
    infer_instance
  · have hnumber := hcheck sNo hempty
    infer_instance

/-- What a read by the antenna keeps, `EnableCashcard` keeps at every depth. -/
theorem enableCashcardAt_leads
    (hcheck : ∀ enableCashcard : Bool → Op Unit, (∀ bEnable, Leads Q Q (enableCashcard bEnable)) →
      ∀ sNo, sNo ≠ "" → Leads Q Q (checkIUorCardStatus enableCashcard sNo .Ant "" 0 0))
    (depth : ℕ) (bEnable : Bool) : Leads Q Q (enableCashcardAt depth bEnable) := by
  induction depth generalizing bEnable with
  | zero =>
      unfold enableCashcardAt
      infer_instance
  | succ depth ih =>
      have hcome := vehicleCome_leads ih (hcheck _ ih)
      unfold enableCashcardAt enableCashcardBody
      dsimp only
      infer_instance

end EnableCashcard

section FindsNone

/-- What `EnableCashcard` would find under the plate. -/
def lookedUp (n : ℕ) (s : Station) : String :=
  if lookUpLPN s ≠ "" then s.env.getIUByLPN n (lookUpLPN s) else ""

/-- `EnableCashcard` has nothing to do, or it finds no vehicle. -/
def FindsNone (bEnable : Bool) (s : Station) : Prop :=
  s.tProcess.sEnableReader = bEnable ∨ ∀ n, (lookedUp n s).length ≠ 10

/-- An exit looks for no other vehicle while one is known. -/
theorem lookUpLPN_known {s : Station} (hexit : s.gtStation.iType = .tiExit)
    (hknown : s.tExit.sIUNo ≠ "") : lookUpLPN s = "" := by
  rw [lookUpLPN, if_neg]
  rintro ⟨-, hentry | hunknown⟩
  · rw [hexit] at hentry
    exact absurd hentry (by decide)
  · exact hknown hunknown

theorem findsNone_known {s : Station} (hexit : s.gtStation.iType = .tiExit)
    (hknown : s.tExit.sIUNo ≠ "") (bEnable : Bool) : FindsNone bEnable s := by
  right
  intro n
  rw [lookedUp, if_neg (not_not.mpr (lookUpLPN_known hexit hknown))]
  decide

/-- What switching the readers keeps, `EnableCashcard` keeps when it finds no vehicle. -/
theorem enableCashcardAt_of_findsNone [Entails P Q] {bEnable : Bool}
    (hnone : ∀ s, P s → FindsNone bEnable s)
    [henable : Leads P Q (modify fun s => { s with tProcess.sEnableReader := bEnable } : Op Unit)]
    [hask : ∀ sLPN, Leads Q Q (ask fun env n => env.getIUByLPN n sLPN)]
    [hswitch : Leads Q Q (switchReaders bEnable)] (depth : ℕ) :
    Leads P Q (enableCashcardAt depth bEnable) := by
  cases depth with
  | zero =>
      unfold enableCashcardAt
      infer_instance
  | succ depth =>
      constructor
      intro s hs
      have henabled := henable.leads s hs
      rw [after_modify] at henabled
      rw [enableCashcardAt, enableCashcardBody, after_get_bind, after_ite]
      split
      · exact Entails.entails s hs
      · rename_i hchanged
        have hlength := (hnone s hs).resolve_left (Ne.symm hchanged) s.asked
        rw [after_modify_bind, after_get_bind]
        by_cases hlpn : lookUpLPN s = ""
        · have hlpn' : lookUpLPN { s with tProcess.sEnableReader := bEnable } = "" := hlpn
          simp only [hlpn', ne_eq, not_true_eq_false, if_false, after_pure_bind]
          rw [if_neg (by decide)]
          exact hswitch.leads _ henabled
        · have hlpn' : lookUpLPN { s with tProcess.sEnableReader := bEnable } = lookUpLPN s := rfl
          rw [lookedUp, if_pos hlpn] at hlength
          simp only [hlpn', ne_eq, hlpn, not_false_eq_true, if_true, after_ask_bind, if_neg hlength]
          exact hswitch.leads _ ((hask (lookUpLPN s)).leads _ henabled)

end FindsNone

end LinuxPBS.Operation

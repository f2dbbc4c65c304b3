import LinuxPBS.Operation.Underway
import LinuxPBS.Operation.Redeem

/-!
# What a scanned ticket closes

The barcode reader works at any time.  `ticketScan` closes an exit in four cases.

| what is known | the exit is closed |
| --- | --- |
| a redemption has been recorded before | if the fee has been computed and is covered |
| a valid redemption ticket | for an EZ-Link or AXS member, and if nothing is left to pay |
| a valid complimentary ticket | for a member, a vehicle, or without one if none is needed |
| anything else | never |

In all other cases the fee and the transaction type stay what they are, and the amount to
pay is what it was or what is left of it.  A complimentary ticket needs no vehicle unless
`giNeedCard4Complimentary` is set: then an exit is saved for the vehicle `N/A`.
-/

set_option synthInstance.maxSize 10000

namespace LinuxPBS.Operation

open Handler CxxText Common Db

/-! ## Outcomes -/

/-- The vehicle is an EZ-Link or AXS member that has been released. -/
def Member (tExit : TExit) : Prop := tExit.bPayByAXS = true ∨ tExit.bPayByEZPay = true

/-- The ticket number that is made of what was scanned. -/
def scannedTicket (s : Station) (skeyedNo : String) : TicketNo :=
  readTicketNo s.tParas.giExitTicketRedemption skeyedNo

/-- What the database says of the ticket. -/
def ticketAnswer (s : Station) (skeyedNo : String) : BarCodeAnswer :=
  s.env.isValidBarCodeTicket (switched false s).asked (scannedTicket s skeyedNo).isRedemptionTicket
    skeyedNo

/-- The ticket can be looked up, and it has been found valid and unused. -/
structure ValidTicket (s : Station) (skeyedNo : String) : Prop where
  accepted : (scannedTicket s skeyedNo).isRefused = false
  length : (scannedTicket s skeyedNo).sCardTkNo.length ∈ [9, 12, 15]
  valid : (ticketAnswer s skeyedNo).iRet = 1

/-- What is left to pay of an exit, as it is printed. -/
def leftToPay (tExit : TExit) : ℚ :=
  (stof (setFeeFormat
    (tExit.sFee - tExit.sRedeemAmt - tExit.sRebateAmt + tExit.sOweAmt))).getD 0

/-- The exit `tExit` may be closed after the scan. -/
inductive Justified (s : Station) (skeyedNo : String) (tExit : TExit) : Prop
  | redeemed (hredeemed : s.tExit.sRedeemAmt > 0) (hfee : s.tExit.sFee ≥ 1 / 100)
      (hcovered : s.tExit.sFee - s.tExit.sRedeemAmt - s.tExit.sRebateAmt + s.tExit.sOweAmt ≤ 0)
  | redemption (hvalid : ValidTicket s skeyedNo)
      (hkind : (scannedTicket s skeyedNo).isRedemptionTicket = true)
      (hcovered : Member s.tExit ∨
        ((s.tExit.sIUNo ≠ "" ∨ s.tExit.sCardNo ≠ "") ∧ leftToPay tExit ≤ 0))
  | complimentary (hvalid : ValidTicket s skeyedNo)
      (hkind : (scannedTicket s skeyedNo).isRedemptionTicket = false)
      (hvehicle : Member s.tExit ∨ s.tExit.sIUNo ≠ "" ∨ s.tParas.giNeedCard4Complimentary = 0)

/-- The fee and what goes with it are those of the exit before the scan. -/
structure SameFee (s : Station) (tExit : TExit) : Prop where
  sFee : tExit.sFee = s.tExit.sFee
  sRebateAmt : tExit.sRebateAmt = s.tExit.sRebateAmt
  sOweAmt : tExit.sOweAmt = s.tExit.sOweAmt

/-- Nothing is closed or opened, and the exit is the one before, less the redemption. -/
structure Unreleased (s t : Station) : Prop where
  calls : t.calls = s.calls
  fee : SameFee s t.tExit
  iTransType : t.tExit.iTransType = s.tExit.iTransType
  sPaidAmt : t.tExit.sPaidAmt = s.tExit.sPaidAmt ∨
    t.tExit.sPaidAmt = gfeeFormat (sFee2Pay t.tExit)

/-- An exit is closed, and the scan justifies it; its fee is the one before. -/
def Released (s : Station) (skeyedNo : String) (t : Station) : Prop :=
  ∃ newer iStatus tExit gfGSTRate,
    t.calls = newer ++ .closeExitOperation iStatus tExit gfGSTRate :: s.calls ∧
      SameFee s tExit ∧ Justified s skeyedNo tExit

/-- What a scan may come to. -/
def Outcome (s : Station) (skeyedNo : String) (t : Station) : Prop :=
  Unreleased s t ∨ Released s skeyedNo t

/-! ## Closing -/

/-- The calls are added to the given ones. -/
def Extends (older : List Call) (s : Station) : Prop := older <:+ s.calls

section Extending

variable {older : List Call}

instance : Settled (Extends older) where
  settled s s' hlane hs := by
    rwa [Extends, show s'.calls = s.calls from congrArg Lane.calls hlane]

instance (c : Call) : Leads (Extends older) (Extends older) (call c) :=
  ⟨fun s hs => hs.trans (List.suffix_cons c s.calls)⟩

instance : Leads (Extends older) (Extends older) clearme where
  leads s hs := by
    rw [Extends, calls_clearme]
    exact hs.trans (List.suffix_cons _ _)

instance : Leads (Extends older) (Extends older) saveExit where
  leads s hs := by
    by_cases hIU : s.tExit.sIUNo = ""
    · rw [after_saveExit_unknown hIU]
      exact hs
    · obtain ⟨row, ret, -, -, -, hsaved⟩ := after_saveExit hIU
      have hcalls : (after saveExit s).calls = .insertexittrans row ret :: s.calls :=
        congrArg Lane.calls hsaved.lane_eq
      rw [Extends, hcalls]
      exact hs.trans (List.suffix_cons _ _)

/-- Closing an exit is recorded, whatever else is done. -/
theorem calls_closeExitOperation (iStatus : TransType) (s : Station) :
    ∃ newer, (after (closeExitOperation iStatus) s).calls =
      newer ++ .closeExitOperation iStatus s.tExit s.tParas.gfGSTRate :: s.calls := by
  have hrest : Leads (Extends (.closeExitOperation iStatus s.tExit s.tParas.gfGSTRate :: s.calls))
      (Extends (.closeExitOperation iStatus s.tExit s.tParas.gfGSTRate :: s.calls)) (do
        saveExit
        if iStatus ≠ .UpdateCHUTrans ∧ iStatus ≠ .EZPayParking ∧ iStatus ≠ .AXSParking then
          openbarrier 0) := inferInstance
  obtain ⟨newer, hnewer⟩ := hrest.leads { s with
    calls := .closeExitOperation iStatus s.tExit s.tParas.gfGSTRate :: s.calls
    tExit := closingStatus iStatus s.tExit } List.suffix_rfl
  exact ⟨newer, hnewer.symm⟩

end Extending

/-! ## The walk of a scan -/

/-- What a scan leaves alone until it decides. -/
@[reducible] def scanView (s : Station) :
    List Call × ℚ × ℤ × ℚ × Bool × Bool × String × String × TParas × Env × String ×
      TStationType × String × String × ℚ × ℚ :=
  (s.calls, s.tExit.sFee, s.tExit.iTransType, s.tExit.sPaidAmt, s.tExit.bPayByAXS,
    s.tExit.bPayByEZPay, s.tExit.sIUNo, s.tExit.sCardNo, s.tParas, s.env, s.tProcess.gsTransID,
    s.gtStation.iType, s.tEntry.sLPN0, s.tExit.sLPN0, s.tExit.sRebateAmt, s.tExit.sOweAmt)

theorem unlooked_of_scanView {s t : Station} (hview : scanView t = scanView s) (hs : Unlooked s) :
    Unlooked t := by
  simp only [scanView, Prod.mk.injEq] at hview
  obtain ⟨-, -, -, -, -, -, hIU, -, -, henv, htrans, hiType, hentry, hexit, -⟩ := hview
  intro n
  unfold lookedUp lookUpLPN
  rw [hIU, henv, htrans, hiType, hentry, hexit]
  exact hs n

/-- The scan has not decided yet. -/
structure Scanning (s t : Station) : Prop where
  view : scanView t = scanView s
  unlooked : Unlooked t

/-- The fee is the one before the scan. -/
theorem Scanning.sameFee {s t : Station} (ht : Scanning s t) : SameFee s t.tExit := by
  have hview := ht.view
  simp only [scanView, Prod.mk.injEq] at hview
  obtain ⟨-, hfee, -, -, -, -, -, -, -, -, -, -, -, -, hrebate, howe⟩ := hview
  exact ⟨hfee, hrebate, howe⟩

/-- The scan has decided not to release the vehicle. -/
structure Left (s t : Station) : Prop where
  unreleased : Unreleased s t
  unlooked : Unlooked t

/-- A time is being redeemed. -/
structure Redeeming (s t : Station) : Prop where
  scanning : Scanning s t
  time : t.tExit.iRedeemTime ≠ 0

section Walk

variable {s : Station} {skeyedNo : String} {depth : ℕ}

instance {α : Type} (m : Op α) [hm : Frames scanView m] : Leads (Scanning s) (Scanning s) m :=
  ⟨fun t ht => ⟨(hm.frames t).trans ht.view, unlooked_of_scanView (hm.frames t) ht.unlooked⟩⟩

instance {α : Type} (m : Op α) [hm : Frames (fun t => (scanView t, t.tExit.iRedeemTime)) m] :
    Leads (Redeeming s) (Redeeming s) m where
  leads t ht := by
    have hview := hm.frames t
    have hscan : scanView (after m t) = scanView t := congrArg Prod.fst hview
    have htime : (after m t).tExit.iRedeemTime = t.tExit.iRedeemTime := congrArg Prod.snd hview
    exact ⟨⟨hscan.trans ht.scanning.view, unlooked_of_scanView hscan ht.scanning.unlooked⟩,
      htime ▸ ht.time⟩

instance {α : Type} (m : Op α) [hm : Frames (fun t => (scanView t, t.tExit)) m] :
    Leads (Left s) (Left s) m where
  leads t ht := by
    have hview := hm.frames t
    have hscan : scanView (after m t) = scanView t := congrArg Prod.fst hview
    have hexit : (after m t).tExit = t.tExit := congrArg Prod.snd hview
    obtain ⟨hcalls, hfee, htype, hpaid⟩ := ht.unreleased
    have hsame : (after m t).calls = t.calls := congrArg Prod.fst hscan
    refine ⟨⟨hsame.trans hcalls, ?_, ?_, ?_⟩, unlooked_of_scanView hscan ht.unlooked⟩
    · rwa [hexit]
    · rw [hexit, htype]
    · rw [hexit]
      exact hpaid

theorem Scanning.left {t : Station} (ht : Scanning s t) : Left s t := by
  have hview := ht.view
  simp only [scanView, Prod.mk.injEq] at hview
  obtain ⟨hcalls, -, htype, hpaid, -⟩ := hview
  exact ⟨⟨hcalls, ht.sameFee, htype, Or.inl hpaid⟩, ht.unlooked⟩

instance : Entails (Scanning s) (Left s) := ⟨fun _ ht => ht.left⟩

instance : Entails (Redeeming s) (Scanning s) := ⟨fun _ ht => ht.scanning⟩

instance : Entails (Left s) (Outcome s skeyedNo) := ⟨fun _ ht => Or.inl ht.unreleased⟩

instance : Entails (Scanning s) (Outcome s skeyedNo) := ⟨fun _ ht => Or.inl ht.left.unreleased⟩

instance : Entails (Redeeming s) (Outcome s skeyedNo) :=
  ⟨fun _ ht => Or.inl ht.scanning.left.unreleased⟩

instance (bEnable : Bool) : Leads (Scanning s) (Scanning s) (enableCashcardAt depth bEnable) := by
  have hswitch : Frames scanView (switchReaders bEnable) := by
    unfold switchReaders
    infer_instance
  exact enableCashcardAt_of_findsNone (fun _ ht => Or.inr ht.unlooked) depth

instance (bEnable : Bool) : Leads (Left s) (Left s) (enableCashcardAt depth bEnable) := by
  have hswitch : Frames (fun t => (scanView t, t.tExit)) (switchReaders bEnable) := by
    unfold switchReaders
    infer_instance
  exact enableCashcardAt_of_findsNone (fun _ ht => Or.inr ht.unlooked) depth

instance (bEnable : Bool) : Leads (Scanning s) (Left s) (enableCashcardAt depth bEnable) := by
  have hscans : Leads (Scanning s) (Scanning s) (enableCashcardAt depth bEnable) := inferInstance
  exact hscans.weaken (fun _ ht => ht) fun _ ht => ht.left

/-- The amount that is shown is what is left to pay. -/
instance : Leads (Scanning s) (Left s) showFee2User where
  leads t ht := by
    have hview := ht.view
    simp only [scanView, Prod.mk.injEq] at hview
    obtain ⟨hcalls, -, htype, -⟩ := hview
    obtain ⟨hfee, hrebate, howe⟩ := ht.sameFee
    unfold showFee2User sendMsg2Server sendMsg2OBU
    simp only [after_get_bind, after_send_bind, after_modify_bind, after_ite, after_modify,
      bind_assoc]
    split <;> exact ⟨⟨hcalls, ⟨hfee, hrebate, howe⟩, htype, Or.inr rfl⟩, ht.unlooked⟩

instance (delay : ℕ) : Frames (fun t => (scanView t, t.tExit)) (eepInq delay) := by
  unfold eepInq
  infer_instance

instance (sData : String) : Frames (fun t => (scanView t, t.tExit)) (sendMsg2CHU .iEntryInq sData) := by
  unfold sendMsg2CHU
  simp only [reduceCtorEq, if_false]
  infer_instance

instance (delay : ℕ) : Frames (fun t => (scanView t, t.tExit)) (chuInq delay) := by
  unfold chuInq
  infer_instance

instance (eepDelay chuDelay : ℕ) : Leads (Left s) (Left s) (inquireAgain eepDelay chuDelay) := by
  unfold inquireAgain
  infer_instance

instance (obu : String) : Frames (fun t => (scanView t, t.tExit)) (sendMsg2OBU obu) := by
  unfold sendMsg2OBU
  infer_instance

instance (obu : String) : Frames scanView (sendMsg2OBU obu) := by
  unfold sendMsg2OBU
  infer_instance

instance : Leads (Scanning s) (Left s) (exitSub (enableCashcardAt depth)) := by
  unfold exitSub
  infer_instance

/-- The fee calculation looks for no ticket while time is being redeemed. -/
instance (eTime payTime : String) (iTransType : ℤ) :
    Leads (Redeeming s) (Redeeming s) (calFeeRAM eTime payTime iTransType) where
  leads t ht := by
    rw [after_of_ok (calFeeRAM_ok ht.time eTime payTime iTransType)]
    exact ⟨⟨ht.scanning.view, ht.scanning.unlooked⟩, ht.time⟩

instance (redeemed sTmpTime : String) :
    Leads (Redeeming s) (Redeeming s) (sameBlock redeemed sTmpTime) := by
  unfold sameBlock
  infer_instance

instance : Leads (Redeeming s) (Redeeming s) redeemTime2Amt := by
  unfold redeemTime2Amt
  dsimp only
  infer_instance

/-! ### Decisions -/

/-- Only the amounts of the exit matter. -/
theorem Justified.of_amounts {tExit tExit' : TExit} (hjust : Justified s skeyedNo tExit)
    (hfee : tExit'.sFee = tExit.sFee) (hredeem : tExit'.sRedeemAmt = tExit.sRedeemAmt)
    (hrebate : tExit'.sRebateAmt = tExit.sRebateAmt) (howe : tExit'.sOweAmt = tExit.sOweAmt) :
    Justified s skeyedNo tExit' := by
  have hleft : leftToPay tExit' = leftToPay tExit := by
    rw [leftToPay, leftToPay, hfee, hredeem, hrebate, howe]
  cases hjust with
  | redeemed hredeemed hfee hcovered => exact .redeemed hredeemed hfee hcovered
  | redemption hvalid hkind hcovered =>
      rw [← hleft] at hcovered
      exact .redemption hvalid hkind hcovered
  | complimentary hvalid hkind hvehicle => exact .complimentary hvalid hkind hvehicle

/-- What leaves the scan undecided releases nothing. -/
theorem outcome_of_scanning {m : Op Unit} [hm : Leads (Scanning s) (Left s) m] {t : Station}
    (ht : Scanning s t) : Outcome s skeyedNo (after m t) :=
  Or.inl (hm.leads t ht).unreleased

/-- An exit that may be closed is closed. -/
theorem outcome_closeExitOperation {t : Station} (hcalls : t.calls = s.calls)
    (hfee : SameFee s t.tExit) (hjust : Justified s skeyedNo t.tExit)
    (iStatus : TransType) : Outcome s skeyedNo (after (closeExitOperation iStatus) t) := by
  obtain ⟨newer, hnewer⟩ := calls_closeExitOperation iStatus t
  exact Or.inr ⟨newer, iStatus, t.tExit, t.tParas.gfGSTRate, hcalls ▸ hnewer, hfee, hjust⟩

theorem outcome_ticketOK {t : Station} (hcalls : t.calls = s.calls)
    (hfee : SameFee s t.tExit) (hjust : Justified s skeyedNo t.tExit) :
    Outcome s skeyedNo (after ticketOK t) := by
  unfold ticketOK
  rw [after_modify_bind, after_get_bind]
  dsimp only
  rw [after_ite]
  split
  · rw [after_modify_bind]
    refine outcome_closeExitOperation ?_ ?_ (hjust.of_amounts ?_ ?_ ?_ ?_) .FreeParking
    · exact hcalls
    · exact ⟨hfee.sFee, hfee.sRebateAmt, hfee.sOweAmt⟩
    all_goals rfl
  · refine outcome_closeExitOperation ?_ ?_ (hjust.of_amounts ?_ ?_ ?_ ?_) .FreeParking
    · exact hcalls
    · exact ⟨hfee.sFee, hfee.sRebateAmt, hfee.sOweAmt⟩
    all_goals rfl

theorem outcome_closeMember {t : Station} (hcalls : t.calls = s.calls)
    (hfee : SameFee s t.tExit) (hjust : Justified s skeyedNo t.tExit) :
    Outcome s skeyedNo (after closeMember t) := by
  unfold closeMember
  rw [after_get_bind, after_ite]
  split
  · exact outcome_closeExitOperation hcalls hfee hjust .AXSParking
  · exact outcome_closeExitOperation hcalls hfee hjust .EZPayParking

/-- A valid complimentary ticket. -/
theorem outcome_complimentaryTicket (hvalid : ValidTicket s skeyedNo)
    (hkind : (scannedTicket s skeyedNo).isRedemptionTicket = false) {t : Station}
    (ht : Scanning s t) (sCardTkNo : String) :
    Outcome s skeyedNo (after (complimentaryTicket (enableCashcardAt depth) sCardTkNo) t) := by
  have hview := ht.view
  simp only [scanView, Prod.mk.injEq] at hview
  obtain ⟨hcalls, -, -, -, hAXS, hEZPay, hIU, -, hparas, -⟩ := hview
  obtain ⟨hfee, hrebate, howe⟩ := ht.sameFee
  unfold complimentaryTicket
  rw [after_get_bind]
  by_cases hmember : t.tExit.bPayByAXS = true ∨ t.tExit.bPayByEZPay = true
  · have hjust (tExit : TExit) : Justified s skeyedNo tExit := by
      refine .complimentary hvalid hkind (Or.inl ?_)
      rwa [Member, ← hAXS, ← hEZPay]
    rw [if_pos hmember, after_modify_bind]
    exact outcome_closeMember hcalls ⟨hfee, hrebate, howe⟩ (hjust _)
  rw [if_neg hmember]
  by_cases hwaits : t.tParas.giNeedCard4Complimentary ≠ 0 ∧ t.tExit.sIUNo = ""
  · rw [if_pos hwaits]
    exact outcome_of_scanning ht
  · have hjust (tExit : TExit) : Justified s skeyedNo tExit := by
      refine .complimentary hvalid hkind (Or.inr ?_)
      rw [hparas, hIU, not_and_or, not_not] at hwaits
      exact hwaits.symm
    rw [if_neg hwaits, after_ite]
    split
    · rw [after_modify_bind]
      exact outcome_ticketOK hcalls ⟨hfee, hrebate, howe⟩ (hjust _)
    · exact outcome_ticketOK hcalls ⟨hfee, hrebate, howe⟩ (hjust _)

/-- What follows when the redemption of a valid ticket is known. -/
theorem outcome_redeemed (hvalid : ValidTicket s skeyedNo)
    (hkind : (scannedTicket s skeyedNo).isRedemptionTicket = true) (sCardTkNo : String) :
    Leads (Scanning s) (Outcome s skeyedNo) (do
      let s ← get
      if s.tExit.bPayByAXS ∨ s.tExit.bPayByEZPay then
        if gfeeFormat s.tExit.sFee < gfeeFormat (s.tExit.sRedeemAmt + s.tExit.sRebateAmt) then
          modify fun s => { s with
            tExit.sRedeemAmt := gfeeFormat (s.tExit.sFee - s.tExit.sRebateAmt) }
        closeMember
      else if s.tExit.sIUNo = "" ∧ s.tExit.sCardNo = "" then
        sendMsg2Server "90" (sCardTkNo ++ ",,,,,Redemption. Ticket Wait for Card")
        enableCashcardAt depth true
      else
        showFee2User
        let s ← get
        let fee := (stof (setFeeFormat
          (s.tExit.sFee - s.tExit.sRedeemAmt - s.tExit.sRebateAmt + s.tExit.sOweAmt))).getD 0
        if fee ≤ 0 then ticketOK
        else
          if s.tParas.giEPS = 3 then sendMsg2OBU s.tExit.sIUNo
          enableCashcardAt depth true
          inquireAgain 2 1 : Op Unit) where
  leads t ht := by
    have hview := ht.view
    simp only [scanView, Prod.mk.injEq] at hview
    obtain ⟨hcalls, -, -, -, hAXS, hEZPay, hIU, hcard, -⟩ := hview
    obtain ⟨hfee, hrebate, howe⟩ := ht.sameFee
    rw [after_get_bind]
    by_cases hmember : t.tExit.bPayByAXS = true ∨ t.tExit.bPayByEZPay = true
    · have hjust (tExit : TExit) : Justified s skeyedNo tExit := by
        refine .redemption hvalid hkind (Or.inl ?_)
        rwa [Member, ← hAXS, ← hEZPay]
      rw [if_pos hmember, after_ite]
      split
      · rw [after_modify_bind]
        exact outcome_closeMember hcalls ⟨hfee, hrebate, howe⟩ (hjust _)
      · exact outcome_closeMember hcalls ⟨hfee, hrebate, howe⟩ (hjust _)
    rw [if_neg hmember]
    by_cases hunknown : t.tExit.sIUNo = "" ∧ t.tExit.sCardNo = ""
    · rw [if_pos hunknown]
      exact outcome_of_scanning ht
    · have hknown : s.tExit.sIUNo ≠ "" ∨ s.tExit.sCardNo ≠ "" := by
        rw [hIU, hcard, not_and_or] at hunknown
        exact hunknown
      rw [if_neg hunknown]
      obtain ⟨_, hshown⟩ := Returns.after_bind (m := showFee2User) _ t
      rw [hshown]
      have hleft : Left s (after showFee2User t) := Leads.leads t ht
      generalize after showFee2User t = t₁ at hleft ⊢
      rw [after_get_bind]
      dsimp only
      rw [after_ite]
      split
      · rename_i hfree
        exact outcome_ticketOK hleft.unreleased.calls hleft.unreleased.fee
          (.redemption hvalid hkind (Or.inr ⟨hknown, hfree⟩))
      · have hwaits : Leads (Left s) (Left s) (do
            if t₁.tParas.giEPS = 3 then sendMsg2OBU t₁.tExit.sIUNo
            enableCashcardAt depth true
            inquireAgain 2 1) := inferInstance
        exact Or.inl (hwaits.leads t₁ hleft).unreleased

/-- A valid redemption ticket. -/
theorem outcome_redeemTicket (hvalid : ValidTicket s skeyedNo)
    (hkind : (scannedTicket s skeyedNo).isRedemptionTicket = true) {t : Station}
    (ht : Scanning s t) (sCardTkNo : String) (answer : BarCodeAnswer) :
    Outcome s skeyedNo (after (redeemTicket (enableCashcardAt depth) sCardTkNo answer) t) := by
  have hrest := @outcome_redeemed s skeyedNo depth hvalid hkind sCardTkNo
  have hredeemed : Leads (Redeeming s) (Outcome s skeyedNo) _ :=
    hrest.weaken (fun _ h => h.scanning) fun _ h => h
  unfold redeemTicket
  dsimp only
  rw [after_ite]
  split
  · rename_i htime
    have hredeeming : Redeeming s { t with tExit.iRedeemTime := answer.redeemTime } :=
      ⟨⟨ht.view, ht.unlooked⟩, htime.ne'⟩
    rw [after_modify_bind]
    refine Leads.leads (P := Redeeming s) _ hredeeming
  · exact Leads.leads (P := Scanning s) t ht

/-- Where no vehicle is found under the plate, a scan closes an exit only if it is justified,
and otherwise it opens nothing and leaves the fee and the type as they are. -/
theorem ticketScan_justified (s : Station) (hnone : Unlooked s) (skeyedNo : String) (depth : ℕ) :
    Outcome s skeyedNo (after (ticketScan (enableCashcardAt depth) skeyedNo) s) := by
  have hstart : Scanning s s := ⟨rfl, hnone⟩
  rw [ticketScan, after_get_bind]
  by_cases hredeemed : s.tExit.sRedeemAmt > 0
  · rw [if_pos hredeemed, after_ite]
    split
    · rename_i hcovered
      exact outcome_ticketOK rfl ⟨rfl, rfl, rfl⟩ (.redeemed hredeemed hcovered.1 hcovered.2)
    · have hshown : Leads (Scanning s) (Left s) showFee2User := inferInstance
      exact Or.inl (hshown.leads s hstart).unreleased
  rw [if_neg hredeemed]
  have hscanning (s' : Station) (hs' : unsent s' = unsent (switched false s)) : Scanning s s' := by
    have hview : scanView s' = scanView s := by
      have hswitched := congrArg scanView hs'
      refine hswitched.trans ?_
      show scanView (switched false s) = scanView s
      unfold switched
      split <;> rfl
    exact ⟨hview, unlooked_of_scanView hview hnone⟩
  refine after_enable_bind (Or.inr hnone) (Or.inl hstart.left.unreleased)
    (fun s' hs' => Or.inl (hscanning s' hs').left.unreleased) fun s' hs' => ?_
  have hs'' := hscanning s' hs'
  have hanswer : s'.env.isValidBarCodeTicket s'.asked
      (scannedTicket s skeyedNo).isRedemptionTicket skeyedNo = ticketAnswer s skeyedNo := by
    have hasked : s'.asked = (switched false s).asked := by
      have hcount := congrArg Station.asked hs'
      exact hcount
    have henv : s'.env = s.env := by
      have hview := hs''.view
      simp only [scanView, Prod.mk.injEq] at hview
      exact hview.2.2.2.2.2.2.2.2.2.1
    rw [ticketAnswer, hasked, henv]
  show Outcome s skeyedNo
    (after (useTicket (enableCashcardAt depth) skeyedNo (scannedTicket s skeyedNo)) s')
  rw [useTicket]
  by_cases hrefused : (scannedTicket s skeyedNo).isRefused = true
  · rw [if_pos hrefused]
    exact outcome_of_scanning hs''
  rw [if_neg hrefused]
  by_cases hlength : (scannedTicket s skeyedNo).sCardTkNo.length ≠ 9 ∧
      (scannedTicket s skeyedNo).sCardTkNo.length ≠ 12 ∧
      (scannedTicket s skeyedNo).sCardTkNo.length ≠ 15
  · rw [if_pos hlength]
    exact outcome_of_scanning hs''
  rw [if_neg hlength, after_ask_bind, hanswer]
  have hlookedUp : Scanning s { s' with asked := s'.asked + 1 } := ⟨hs''.view, hs''.unlooked⟩
  by_cases hret : (ticketAnswer s skeyedNo).iRet = 1
  · have hvalid : ValidTicket s skeyedNo := by
      refine ⟨Bool.eq_false_iff.mpr hrefused, ?_, hret⟩
      simp only [List.mem_cons, List.not_mem_nil, or_false]
      by_contra hnot
      simp only [not_or] at hnot
      exact hlength hnot
    have hnoted : Scanning s { s' with
        asked := s'.asked + 1
        tExit.sRedeemNo := (scannedTicket s skeyedNo).sCardTkNo } :=
      ⟨hs''.view, hs''.unlooked⟩
    rw [if_pos hret, after_modify_bind, after_ite]
    split
    · rename_i hkind
      exact outcome_redeemTicket hvalid hkind hnoted _ _
    · rename_i hkind
      exact outcome_complimentaryTicket hvalid (Bool.eq_false_iff.mpr hkind) hnoted _
  · rw [if_neg hret]
    exact outcome_of_scanning hlookedUp

end Walk

/-! ## A ticket without a vehicle -/

/-- An exit where complimentary tickets are valid, and need no card. -/
def ticketExit : Station :=
  { emptyExit with env.isValidBarCodeTicket := fun _ _ _ => { iRet := 1 } }

theorem ticketScan_justified_nobody :
    Unlooked ticketExit ∧
      Outcome ticketExit "ABC" (after (ticketScan (enableCashcardAt 3) "ABC") ticketExit) := by
  have hnone : Unlooked ticketExit := by
    intro n
    have hlength : (lookedUp n ticketExit).length = 0 := rfl
    omega
  exact ⟨hnone, ticketScan_justified ticketExit hnone "ABC" 3⟩

/-- An exit is closed or the barrier opened only for a vehicle that is known. -/
def VehicleNeeded (s t : Station) : Prop :=
  t.calls ≠ s.calls → s.tExit.sIUNo ≠ "" ∨ s.tExit.sCardNo ≠ ""

/-- The exit that is closed without a vehicle. -/
def nobodyClosed : TExit :=
  { clearedExit {} with
    sIUNo := "N/A", sCardNo := "SC1234567890", iTransType := 10, sRedeemNo := "SC1234567890" }

theorem calls_ticketExit :
    (after (ticketScan (enableCashcardAt 3) "SC1234567890") ticketExit).calls =
      [.openBarrier 0, .insertexittrans nobodyClosed.toTExitTrans .iCentralSuccess,
        .closeExitOperation .FreeParking nobodyClosed 0] := by
  decide +kernel

/-- A complimentary ticket opens the barrier of an exit without a vehicle. -/
theorem not_ticketScan_vehicle :
    NewExit ticketExit ∧
      ¬VehicleNeeded ticketExit
        (after (ticketScan (enableCashcardAt 3) "SC1234567890") ticketExit) := by
  refine ⟨by constructor <;> rfl, fun hneeded => ?_⟩
  have hchanged : (after (ticketScan (enableCashcardAt 3) "SC1234567890") ticketExit).calls ≠
      ticketExit.calls := by
    rw [calls_ticketExit]
    exact List.cons_ne_nil _ _
  rcases hneeded hchanged with hIU | hcard
  · exact hIU rfl
  · exact hcard rfl

end LinuxPBS.Operation

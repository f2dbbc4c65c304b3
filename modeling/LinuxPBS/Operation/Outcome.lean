import LinuxPBS.Operation.ChuAnswer

/-!
# The outcome of a deduction by the OBU

`EEPDebit` sets `giDeductionStatus` to `Doingdeduction`, and until it is set back no inquiry
is made and no other device is asked.  The EEP client reports how the deduction went: the
request was not sent, not acknowledged or not answered, it was refused by a NAK, or the
transaction data came.

`released_iff` lists the outcomes behind which the lane goes on:

* an answer that never came, while loop A is occupied;
* a success of the vehicle on loop A;
* a refusal with a violation code;
* a suspected double deduction, when opening the barrier clears the lane.

Behind every other outcome the status is `Doingdeduction` as before.
-/

set_option synthInstance.maxSize 10000

namespace LinuxPBS.Operation

open Handler CxxText Common

/-! ## Outcomes -/

/-- The event reports the end of a deduction for the vehicle at the exit. -/
structure EndsDeduction (s : Station) (event : EepEvent) : Prop where
  known : s.tExit.sIUNo ≠ ""
  ends : event.commandReqType = .DEDUCT_REQ_CMD ∧ event.messageStatus ≠ .SUCCESS ∨
    event.commandReqType = .DEDUCT_REQ_CMD ∧ event.messageStatus = .SUCCESS ∧
      event.message = .NAK ∨
    ∃ transData, Answers event transData ∧ sObuLabel transData = s.tExit.sIUNo

/-- No deduction is under way any more, or another one has been requested. -/
def Freed (s s' : Station) : Prop :=
  Ended s' ∨ (requests s).length < (requests s').length

/-- The result of a deduction that sets the status back. -/
def ReleasesLane (s : Station) (transData : TransactionData) : Prop :=
  (transData.resultDeduction = 1 ∨ transData.resultDeduction = 2 ∨
      transData.resultDeduction = 8) ∧ s.env.gbLoopApresent s.asked = true ∨
    transData.resultDeduction = 7 ∧ Clears s ∨
    transData.resultDeduction = 0 ∧ refusedStatus transData ≠ none

/-- The outcomes behind which the lane goes on. -/
def Resolves (s : Station) (event : EepEvent) : Prop :=
  Ended s ∨
    event.messageStatus = .RSP_TIMEOUT ∧ s.env.gbLoopApresent s.asked = true ∨
    event.messageStatus = .SUCCESS ∧
      ∃ transData, event.message = .TRANSACTION_DATA transData ∧ ReleasesLane s transData

/-- The state of the deduction and the requests. -/
@[reducible] def underway (s : Station) : EProcessStatus × List (DeviceType × String × String) :=
  (s.tExit.giDeductionStatus, requests s)

/-- What does not touch the deduction releases the lane only if none was under way. -/
theorem released_iff_of_same {s s' : Station} (hsame : underway s' = underway s) :
    Freed s s' ↔ Ended s := by
  simp only [underway, Prod.mk.injEq] at hsame
  obtain ⟨hstatus, hrequests⟩ := hsame
  have hended : Ended s' ↔ Ended s := by rw [Ended, Ended, hstatus]
  rw [Freed, hrequests, hended]
  exact or_iff_left (lt_irrefl _)

/-- What leaves a deduction alone leaves its state and the requests alone. -/
theorem underway_of_debited {s s' : Station} (hsame : debited s' = debited s) :
    underway s' = underway s :=
  congrArg (fun view => (view.1, view.2.2.2.2)) hsame

/-! ## A status that is set back -/

section Ends

variable {s : Station} {depth : ℕ}

/-- A cleared lane has no deduction under way. -/
theorem ended_clearme (hexit : s.gtStation.iType = .tiExit) : Ended (after clearme s) := by
  have hentry : s.gtStation.iType ≠ .tientry := by
    rw [hexit]
    decide
  rw [clearme, after_call_bind, after_modify_bind, after_get_bind, if_neg hentry, after_modify]
  rintro ⟨⟩

/-- The lane is cleared for the next OBU. -/
theorem ended_endEEPprocess (hexit : s.gtStation.iType = .tiExit)
    (hseen : s.tProcess.gsTailgateOBU ≠ "") (processingResult : ℤ) :
    Ended (after (endEEPprocess processingResult) s) := by
  have hclear : ∀ t : Station, t.gtStation.iType = .tiExit →
      Ended (after (clearme >>= fun _ => eepInq 0) t) :=
    fun t ht => Leads.after_bind (ended_clearme ht) fun _ => inferInstance
  have hentry : ¬s.gtStation.iType = .tientry := by
    rw [hexit]
    decide
  simp only [endEEPprocess, sendMsg2OBU, bind_assoc, after_get_bind, after_modify_bind,
    after_send_bind, if_neg hentry, after_ite, if_pos hseen]
  split <;> exact hclear _ hexit

/-- Opening the barrier for the next OBU clears the lane. -/
theorem ended_openbarrier (hexit : s.gtStation.iType = .tiExit) (hclears : Clears s)
    (iReason : ℤ) : Ended (after (openbarrier iReason) s) := by
  obtain ⟨hin, hcontinue, heps, hseen⟩ := hclears
  rw [openbarrier, after_get_bind, if_neg hin, if_neg hcontinue, after_modify_bind,
    after_call_bind, if_pos heps]
  apply ended_endEEPprocess
  · exact hexit
  · exact hseen

/-- A refused deduction with a violation code. -/
theorem ended_eepRefused (hexit : s.gtStation.iType = .tiExit) (hknown : s.tExit.sIUNo ≠ "")
    {status : EProcessStatus} (hstatus : status ≠ .Doingdeduction) (reason : String) :
    Ended (after (eepRefused (enableCashcardAt depth) status reason) s) := by
  simp only [eepRefused, sendMsg2Server, sendMsg2OBU, bind_assoc, after_get_bind, after_send_bind,
    after_modify_bind]
  refine EndedHere.ended (Leads.leads (P := EndedHere) _ ?_)
  exact ⟨hstatus, hexit, hknown⟩

/-- A success of the vehicle on loop A. -/
theorem ended_eepDeducted (transData : TransactionData) :
    Ended (after (eepDeducted transData) s) := by
  rw [eepDeducted, after_modify_bind, after_get_bind]
  exact ended_debitOK (Or.inr (stof_setFeeFormat _)) (stof_setFeeFormat _)
    (Or.inr (stof_setFeeFormat _)) _ _ _ _

instance : Returns insertexittrans where
  returns s := by
    obtain ⟨row, ret, s₁, hok, -⟩ := insertexittrans_eq s
    exact ⟨ret, s₁, hok⟩

instance : Returns saveExit := by
  have hreceipt : Returns printReceipt := by
    unfold printReceipt
    infer_instance
  unfold saveExit
  dsimp only
  infer_instance

theorem iType_saveExit (s : Station) : (after saveExit s).gtStation.iType = s.gtStation.iType := by
  by_cases hIU : s.tExit.sIUNo = ""
  · rw [after_saveExit_unknown hIU]
  · obtain ⟨row, ret, -, -, -, hsaved⟩ := after_saveExit hIU
    have htype := congrArg Lane.iType hsaved.lane_eq
    exact htype

/-- A suspected double deduction, when the barrier clears the lane. -/
theorem ended_eepRejectCode7 (hexit : s.gtStation.iType = .tiExit) (hclears : Clears s)
    (transData : TransactionData) : Ended (after (eepRejectCode7 transData) s) := by
  obtain ⟨s₁, hclose, hexit₁, hclears₁⟩ : ∃ s₁, after (eepRejectCode7 transData) s =
      after (saveExit >>= fun _ => openbarrier 0) s₁ ∧
        s₁.gtStation.iType = .tiExit ∧ Clears s₁ :=
    ⟨_, rfl, hexit, hclears⟩
  -- `SaveExit` throws nothing, so that the barrier is opened
  obtain ⟨⟨⟩, hopened⟩ := Returns.after_bind (m := saveExit) (fun _ => openbarrier 0) s₁
  have hview := Frames.after_eq clearView saveExit s₁
  simp only [clearView, Prod.mk.injEq] at hview
  rw [hclose, hopened]
  apply ended_openbarrier ((iType_saveExit s₁).trans hexit₁)
  unfold Clears
  rw [hview.2.1, hview.2.2.1, hview.2.2.2.1, hview.2.2.2.2.1]
  exact hclears₁

/-! ## Transaction data -/

/-- A result that releases the lane sets the status back. -/
theorem ended_of_releasesLane (hexit : s.gtStation.iType = .tiExit) {transData : TransactionData}
    (hlabel : sObuLabel transData = s.tExit.sIUNo) (hknown : s.tExit.sIUNo ≠ "")
    (hreleases : ReleasesLane s transData) :
    Ended (after (processEEPTransData (enableCashcardAt depth) transData) s) := by
  have hrefused {status : EProcessStatus} (hstatus : status ≠ .Doingdeduction) (reason : String) :
      Ended (after (eepRefused (enableCashcardAt depth) status reason) s) :=
    ended_eepRefused hexit hknown hstatus reason
  unfold processEEPTransData
  obtain ⟨hsuccess, hpresent⟩ | ⟨h7, hclears⟩ | ⟨h0, hviolation⟩ := hreleases
  · rw [if_pos hsuccess, eepSuccess, after_get_bind]
    rw [sObuLabel] at hlabel
    rw [if_pos hlabel, after_ask_bind, if_pos hpresent]
    exact ended_eepDeducted transData
  · rw [if_neg (by omega), if_pos h7]
    exact ended_eepRejectCode7 hexit hclears transData
  · rw [if_neg (by omega), if_neg (by omega), if_neg (by omega), if_neg (by omega), if_pos h0]
    rw [refusedStatus] at hviolation
    split_ifs at hviolation ⊢
    · exact hrefused (by decide) _
    · exact hrefused (by decide) _
    · exact hrefused (by decide) _
    · exact absurd rfl hviolation

end Ends

/-! ## A status that is not set back -/

section Stuck

variable {s : Station} {depth : ℕ}

theorem underway_saveExit (s : Station) : underway (after saveExit s) = underway s := by
  by_cases hIU : s.tExit.sIUNo = ""
  · rw [after_saveExit_unknown hIU]
  · obtain ⟨row, ret, -, -, -, hsaved⟩ := after_saveExit hIU
    have hlane := hsaved.lane_eq
    simp only [lane, Lane.mk.injEq] at hlane
    simp only [underway, requests, hlane]
    rfl

/-- A suspected double deduction, when the barrier does not clear the lane. -/
theorem underway_eepRejectCode7 (hstays : ¬Clears s) (transData : TransactionData) :
    underway (after (eepRejectCode7 transData) s) = underway s := by
  obtain ⟨s₁, hclose, hsame₁, hstays₁⟩ : ∃ s₁, after (eepRejectCode7 transData) s =
      after (saveExit >>= fun _ => openbarrier 0) s₁ ∧
        underway s₁ = underway s ∧ ¬Clears s₁ :=
    ⟨_, rfl, rfl, hstays⟩
  obtain ⟨⟨⟩, hopened⟩ := Returns.after_bind (m := saveExit) (fun _ => openbarrier 0) s₁
  have hview := Frames.after_eq clearView saveExit s₁
  simp only [clearView, Prod.mk.injEq] at hview
  have hstays₂ : ¬Clears (after saveExit s₁) := by
    unfold Clears
    rw [hview.2.1, hview.2.2.1, hview.2.2.2.1, hview.2.2.2.2.1]
    exact hstays₁
  calc underway (after (eepRejectCode7 transData) s)
      = underway (after (openbarrier 0) (after saveExit s₁)) := by rw [hclose, hopened]
    _ = underway (after saveExit s₁) := underway_of_debited (debited_openbarrier hstays₂ 0)
    _ = underway s₁ := underway_saveExit s₁
    _ = underway s := hsame₁

/-- A result that does not release the lane leaves the deduction under way. -/
theorem underway_processEEPTransData (hexit : s.gtStation.iType = .tiExit)
    {transData : TransactionData} (hknown : s.tExit.sIUNo ≠ "")
    (hstuck : ¬ReleasesLane s transData) :
    underway (after (processEEPTransData (enableCashcardAt depth) transData) s) = underway s := by
  rw [ReleasesLane, not_or, not_or] at hstuck
  obtain ⟨hsuccess, h7, h0⟩ := hstuck
  unfold processEEPTransData
  simp only [after_ite]
  split_ifs with hresult hresult hresult hresult hresult hfront hfront hback
  · have hgone : s.env.gbLoopApresent s.asked = false := by
      rw [← Bool.not_eq_true]
      exact fun hpresent => hsuccess ⟨hresult, hpresent⟩
    rw [eepSuccess, after_get_bind, after_ite]
    split
    · rw [after_ask_bind, hgone, if_neg Bool.false_ne_true, after_send]
    · rw [after_send]
  · exact underway_eepRejectCode7 (fun hclears => h7 ⟨hresult, hclears⟩) transData
  · apply underway_of_debited
    rw [debited_bind]
    exact debited_enableCashcardAt (findsNone_known hexit hknown true) depth
  · rfl
  · exact absurd ⟨hresult, by rw [refusedStatus, if_pos hfront]; simp⟩ h0
  · exact absurd ⟨hresult, by rw [refusedStatus, if_neg ‹_›, if_pos hfront]; simp⟩ h0
  · exact absurd ⟨hresult, by rw [refusedStatus, if_neg ‹_›, if_neg ‹_›, if_pos hback]; simp⟩ h0
  · rfl
  · rfl

end Stuck

/-! ## Behind which outcomes the lane goes on -/

section Served

variable {s : Station} {depth : ℕ} {event : EepEvent}

/-- A request that was not sent, not acknowledged or not answered. -/
theorem released_eepFailure_iff (hexit : s.gtStation.iType = .tiExit)
    (hknown : s.tExit.sIUNo ≠ "") (messageStatus : EepStatus) :
    Freed s (after (eepFailure (enableCashcardAt depth) .DEDUCT_REQ_CMD messageStatus) s) ↔
      Ended s ∨ messageStatus = .RSP_TIMEOUT ∧ s.env.gbLoopApresent s.asked = true := by
  rw [eepFailure, if_neg (by decide)]
  by_cases htimeout : messageStatus = .RSP_TIMEOUT ∧ s.env.gbLoopApresent s.asked = true
  · obtain ⟨hstatus, hpresent⟩ := htimeout
    rw [if_pos ⟨rfl, hstatus⟩, after_ask_bind, if_pos hpresent, after_get_bind]
    refine ⟨fun _ => Or.inr ⟨hstatus, hpresent⟩, fun _ => Or.inl ?_⟩
    rw [after_ite]
    split
    · rw [after_modify_bind]
      refine EndedHere.ended (Leads.leads (P := EndedHere) _ ?_)
      exact ⟨by rintro ⟨⟩, hexit, hknown⟩
    · rename_i hidle
      exact fun hdoing => hidle (Or.inr hdoing)
  · rw [or_iff_left htimeout]
    apply released_iff_of_same
    rw [after_ite]
    split
    · rename_i hstatus
      rw [after_ask_bind, if_neg fun hpresent => htimeout ⟨hstatus.2, hpresent⟩, after_pure]
    · rw [after_pure]

/-- The transaction data of the vehicle at the exit. -/
theorem released_processEEPTransData_iff (hexit : s.gtStation.iType = .tiExit)
    (hknown : s.tExit.sIUNo ≠ "") {transData : TransactionData}
    (hlabel : sObuLabel transData = s.tExit.sIUNo) :
    Freed s (after (processEEPTransData (enableCashcardAt depth) transData) s) ↔
      Ended s ∨ ReleasesLane s transData := by
  by_cases hreleases : ReleasesLane s transData
  · have hended : Ended (after (processEEPTransData (enableCashcardAt depth) transData) s) :=
      ended_of_releasesLane hexit hlabel hknown hreleases
    exact ⟨fun _ => Or.inr hreleases, fun _ => Or.inl hended⟩
  · rw [or_iff_left hreleases]
    exact released_iff_of_same (underway_processEEPTransData hexit hknown hreleases)

/-- At an exit, the lane goes on behind exactly the outcomes that resolve the deduction. -/
theorem released_iff (hexit : s.gtStation.iType = .tiExit) (hends : EndsDeduction s event)
    (depth : ℕ) : Freed s (after (serve depth (.eep event)) s) ↔ Resolves s event := by
  obtain ⟨hknown, hends⟩ := hends
  obtain ⟨hcmd, hfailed⟩ | ⟨hcmd, hsuccess, hnak⟩ | ⟨transData, hanswer, hlabel⟩ := hends
  · have hserve : after (serve depth (.eep event)) s = after
        (eepFailure (enableCashcardAt depth) .DEDUCT_REQ_CMD event.messageStatus)
        (called s (.eep event)) := by
      rw [serve, after_call_bind, handleEvent, processEEP, after_catchException, if_neg hfailed,
        hcmd]
    have hresolves : Resolves s event ↔ Ended s ∨
        event.messageStatus = .RSP_TIMEOUT ∧ s.env.gbLoopApresent s.asked = true := by
      rw [Resolves, ← or_assoc]
      exact or_iff_left fun h => hfailed h.1
    rw [hserve, hresolves]
    exact released_eepFailure_iff (s := called s (.eep event)) hexit hknown event.messageStatus
  · have hserve : after (serve depth (.eep event)) s =
        after (endCommand .DEDUCT_REQ_CMD .NAK) (called s (.eep event)) := by
      rw [serve, after_call_bind, handleEvent, processEEP, after_catchException, if_pos hsuccess,
        hcmd, if_neg (by decide), hnak]
      rfl
    have hresolves : Resolves s event ↔ Ended s := by
      rw [Resolves, hsuccess, hnak]
      simp
    rw [hserve, hresolves]
    exact released_iff_of_same rfl
  · obtain ⟨fiLastEEPCmd, hserve⟩ := serve_answer hanswer depth s
    have hresolves : Resolves s event ↔ Ended s ∨ ReleasesLane s transData := by
      rw [Resolves, hanswer.messageStatus, hanswer.message]
      simp
    rw [hserve, hresolves]
    exact released_processEEPTransData_iff (s := { s with
      calls := .handleEvent (.eep event) :: s.calls
      tProcess.fiLastEEPCmd := fiLastEEPCmd }) hexit hknown hlabel

end Served

/-! ## A request that was not sent -/

/-- The OBU `1122334455` has been read, and it is asked for the fee. -/
def obuDeducting : Station :=
  history 3 [.eep
    { commandReqType := .GET_OBU_INFO_REQ_CMD
      message := .OBU_INFORMATION_NOTIFICATION
        { obulabel := 0x1122334455, backendAccount := 1, businessFunctionStatus := 1 } }] readerExit

/-- The outcome of a deduction without an answer. -/
def unanswered (messageStatus : EepStatus) : EepEvent :=
  { commandReqType := .DEDUCT_REQ_CMD, messageStatus, message := .other }

/-- A failure of the connection to the OBU. -/
def dsrcFailure : EepEvent :=
  { commandReqType := .DEDUCT_REQ_CMD
    message := .TRANSACTION_DATA { resultDeduction := 9, obuLabel := 0x1122334455 } }

theorem endsDeduction_unanswered {messageStatus : EepStatus} (hfailed : messageStatus ≠ .SUCCESS) :
    EndsDeduction obuDeducting (unanswered messageStatus) :=
  ⟨by decide +kernel, Or.inl ⟨rfl, hfailed⟩⟩

theorem released_iff_timeout :
    Freed obuDeducting (after (serve 3 (.eep (unanswered .RSP_TIMEOUT))) obuDeducting) ↔
      Resolves obuDeducting (unanswered .RSP_TIMEOUT) := by
  apply released_iff
  · decide +kernel
  · exact endsDeduction_unanswered (by decide)

/-- The deduction stays under way when the request was not sent, and when the connection to the
OBU failed: the inquiry that is to follow is not made. -/
theorem not_released_unsent :
    NewExit readerExit ∧
      EndsDeduction obuDeducting (unanswered .SEND_FAILED) ∧
      ¬Freed obuDeducting (after (serve 3 (.eep (unanswered .SEND_FAILED))) obuDeducting) ∧
      EndsDeduction obuDeducting dsrcFailure ∧
      ¬Freed obuDeducting (after (serve 3 (.eep dsrcFailure)) obuDeducting) := by
  have hdoing : ¬Ended obuDeducting := by
    rw [Ended, not_not]
    decide +kernel
  have hunsent : underway (after (serve 3 (.eep (unanswered .SEND_FAILED))) obuDeducting) =
      underway obuDeducting := by
    decide +kernel
  have hdsrc : underway (after (serve 3 (.eep dsrcFailure)) obuDeducting) =
      underway obuDeducting := by
    decide +kernel
  have hlabel : sObuLabel { resultDeduction := 9, obuLabel := 0x1122334455 } =
      obuDeducting.tExit.sIUNo := by
    decide +kernel
  refine ⟨newExit_readerExit, endsDeduction_unanswered (by decide), ?_, ⟨?_, ?_⟩, ?_⟩
  · rwa [released_iff_of_same hunsent]
  · decide +kernel
  · exact Or.inr (Or.inr ⟨_, ⟨rfl, rfl, Or.inr (Or.inl rfl)⟩, hlabel⟩)
  · rwa [released_iff_of_same hdsrc]

end LinuxPBS.Operation

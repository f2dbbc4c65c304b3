import LinuxPBS.Operation.Spared
import LinuxPBS.Operation.StrayAnswer

/-!
# The vehicle is not swapped

`GivesUp s event` are the answers behind which the deduction may be over, but the vehicle
and its amount are the same.  While a deduction is under way, an event that is spared or
gives the deduction up leaves `tExit.sIUNo`, `tExit.sEntryTime` and `tExit.sPaidAmt` alone.

A read of another number does not: it is not stopped by `giDeductionStatus`, and `PBSExit`
writes the number to `tExit` before any device is asked.
-/

set_option synthInstance.maxSize 10000

namespace LinuxPBS.Operation

open Handler CxxText Common Db

/-! ## The vehicle a deduction was requested for -/

/-- The vehicle a deduction was requested for, with the amount. -/
@[reducible] def requestedFor (s : Station) : String × String × ℚ :=
  (s.tExit.sIUNo, s.tExit.sEntryTime, s.tExit.sPaidAmt)

/-- The vehicle with what a look-up depends on. -/
@[reducible] def hereView (s : Station) :
    (String × String × ℚ) × TParas × Env × String × TStationType × String × String :=
  (requestedFor s, s.tParas, s.env, s.tProcess.gsTransID, s.gtStation.iType, s.tEntry.sLPN0,
    s.tExit.sLPN0)

/-- The vehicle is the same as in `s`, and no other one can be looked up. -/
structure Here (s s' : Station) : Prop where
  requestedFor : requestedFor s' = requestedFor s
  tParas : s'.tParas = s.tParas
  unlooked : Unlooked s'

theorem Here.of_view {s s₁ s₂ : Station} (hview : hereView s₂ = hereView s₁) (hs : Here s s₁) :
    Here s s₂ := by
  have hrequested := congrArg Prod.fst hview
  simp only [Prod.mk.injEq] at hview
  obtain ⟨⟨hIU, -, -⟩, htParas, henv, htrans, hiType, hentry, hexit⟩ := hview
  refine ⟨hrequested.trans hs.requestedFor, htParas.trans hs.tParas, fun n => ?_⟩
  unfold lookedUp lookUpLPN
  rw [hIU, henv, htrans, hiType, hentry, hexit]
  exact hs.unlooked n

instance {α : Type} (s : Station) (m : Op α) [hm : Frames hereView m] : Leads (Here s) (Here s) m where
  leads s' hs' := hs'.of_view (hm.frames s')

instance (bEnable : Bool) : Frames hereView (switchReaders bEnable) := by
  unfold switchReaders
  infer_instance

instance (delay : ℕ) : Frames hereView (eepInq delay) := by
  unfold eepInq
  infer_instance

instance (sData : String) : Frames hereView (sendMsg2CHU .iEntryInq sData) := by
  unfold sendMsg2CHU
  simp only [reduceCtorEq, if_false]
  infer_instance

instance (delay : ℕ) : Frames hereView (chuInq delay) := by
  unfold chuInq
  infer_instance

instance (eepDelay chuDelay : ℕ) : Frames hereView (inquireAgain eepDelay chuDelay) := by
  unfold inquireAgain
  infer_instance

instance (obu : String) : Frames hereView (sendMsg2OBU obu) := by
  unfold sendMsg2OBU
  infer_instance

instance (s : Station) (depth : ℕ) (bEnable : Bool) :
    Leads (Here s) (Here s) (enableCashcardAt depth bEnable) :=
  enableCashcardAt_of_findsNone (fun _ hs => Or.inr hs.unlooked) depth

/-! ## Answers -/

/-- The answer ends the deduction without success, and no vehicle can be looked up. -/
def GivesUp (s : Station) : Event → Prop
  | .lcsc eventData => lcscStatus eventData ∉ [3, 4, 6] ∧ ShownFee s ∧ Unlooked s
  | .upt cmd eventData => cmd = .PAYMENT_MODE_AUTO_REQUEST ∧ uptStatus eventData ≠ 0 ∧ Unlooked s
  | .eep event => (event.messageStatus = .SUCCESS → ∃ transData,
      event.message = .TRANSACTION_DATA transData ∧ transData.resultDeduction ∉ [1, 2, 7, 8]) ∧
      Unlooked s
  | .chu eventData => (∀ iRC tmpStr, chuReply eventData = some (103, iRC, tmpStr) →
      ¬ReportsDebit s.tParas iRC tmpStr) ∧ Unlooked s
  | _ => False

section Answers

variable {s : Station} {depth : ℕ}

theorem hereView_showFee2User (hshown : ShownFee s) :
    hereView (after showFee2User s) = hereView s := by
  have hview : hereView (after showFee2User s) =
      hereView { s with tExit.sPaidAmt := gfeeFormat (sFee2Pay s.tExit) } := by
    unfold showFee2User sendMsg2Server sendMsg2OBU
    simp only [after_get_bind, after_send_bind, after_modify_bind, after_ite, after_modify, bind_assoc]
    split <;> rfl
  unfold ShownFee at hshown
  rw [hview, hshown]

theorem here_retryLCSCLastCommand (hshown : ShownFee s) (hnone : Unlooked s) :
    Here s (after (retryLCSCLastCommand (enableCashcardAt depth)) s) := by
  have hrest : Leads (Here s) (Here s) (do
      enableCashcardAt depth true
      inquireAgain 3 3 : Op Unit) := by
    infer_instance
  have hoff : Leads (Here s) (Here s) (enableCashcardAt depth false) := by
    infer_instance
  rw [retryLCSCLastCommand, after_ask_bind, after_ite]
  split
  · rw [after_get_bind]
    dsimp only
    rw [sendMsg2Server, after_send_bind, after_modify_bind]
    split
    · refine Leads.after_bind ?_ fun _ => hrest
      refine @Here.of_view s s _ ((hereView_showFee2User ?_).trans rfl) ⟨rfl, rfl, hnone⟩
      exact hshown
    · refine hrest.leads _ ?_
      exact ⟨rfl, rfl, hnone⟩
  · refine hoff.leads _ ?_
    exact ⟨rfl, rfl, hnone⟩

instance (status : EProcessStatus) (reason : String) :
    Leads (Here s) (Here s) (cardRejected (enableCashcardAt depth) status reason) := by
  unfold cardRejected
  infer_instance

theorem here_processLCSC {eventData : String} (hother : lcscStatus eventData ∉ [3, 4, 6])
    (hshown : ShownFee s) (hnone : Unlooked s) :
    Here s (after (processLCSC (enableCashcardAt depth) eventData) s) := by
  have hs : Here s s := ⟨rfl, rfl, hnone⟩
  simp only [List.mem_cons, List.not_mem_nil, or_false, not_or, lcscStatus] at hother
  obtain ⟨h3, h4, h6⟩ := hother
  unfold processLCSC
  dsimp only
  generalize lastRead stoi "msgStatus" (-101) (pairs eventData) = msg_status at *
  simp only [if_neg h3, if_neg h4, if_neg h6, after_ite]
  split
  · split
    · exact ⟨rfl, rfl, hnone⟩
    · exact hs
  split
  · split
    · exact ⟨rfl, rfl, hnone⟩
    · exact hs
  split
  · rw [after_get_bind, after_ite]
    split
    · exact here_retryLCSCLastCommand hshown hnone
    · exact hs
  split
  · exact ⟨rfl, rfl, hnone⟩
  split
  · exact Leads.leads (P := Here s) _ hs
  split
  · exact hs
  · exact here_retryLCSCLastCommand hshown hnone

theorem here_uptPayment {msg_status : ℕ} (hfailed : msg_status ≠ 0) (event : List (String × String)) :
    Leads (Here s) (Here s) (uptPayment (enableCashcardAt depth) msg_status event) := by
  unfold uptPayment
  simp only [if_neg hfailed]
  infer_instance

instance (cmd : CommandType) (message : EepMessage) : Frames hereView (endCommand cmd message) := by
  unfold endCommand
  infer_instance

instance (status : EProcessStatus) (reason : String) :
    Leads (Here s) (Here s) (eepRefused (enableCashcardAt depth) status reason) := by
  unfold eepRefused
  dsimp only
  infer_instance

theorem here_processEEPTransData {transData : TransactionData}
    (hfailed : transData.resultDeduction ∉ [1, 2, 7, 8]) :
    Leads (Here s) (Here s) (processEEPTransData (enableCashcardAt depth) transData) := by
  simp only [List.mem_cons, List.not_mem_nil, or_false, not_or] at hfailed
  obtain ⟨h1, h2, h7, h8⟩ := hfailed
  unfold processEEPTransData
  simp only [h1, h2, h7, h8, or_self, if_false]
  infer_instance

theorem here_eepFailure (cmd : CommandType) (messageStatus : EepStatus) :
    Leads (Here s) (Here s) (eepFailure (enableCashcardAt depth) cmd messageStatus) := by
  unfold eepFailure
  infer_instance

theorem here_processEEP (hnone : Unlooked s) {event : EepEvent}
    (hfailed : event.messageStatus = .SUCCESS → ∃ transData,
      event.message = .TRANSACTION_DATA transData ∧ transData.resultDeduction ∉ [1, 2, 7, 8]) :
    Here s (after (processEEP (enableCashcardAt depth) event) s) := by
  have hs : Here s s := ⟨rfl, rfl, hnone⟩
  rw [processEEP, after_catchException]
  by_cases hsuccess : event.messageStatus = .SUCCESS
  · obtain ⟨transData, hmessage, hresult⟩ := hfailed hsuccess
    have hanswer := @here_processEEPTransData s depth _ hresult
    have hend (cmd : CommandType) : Leads (Here s) (Here s) (do
        endCommand cmd (.TRANSACTION_DATA transData)
        processEEPTransData (enableCashcardAt depth) transData) := by
      infer_instance
    rw [if_pos hsuccess, hmessage]
    by_cases hunknown : event.commandReqType = .UNKNOWN_REQ_CMD
    · rw [if_pos hunknown]
      exact hanswer.leads s hs
    · rw [if_neg hunknown]
      generalize event.commandReqType = cmd
      cases cmd with
      | DEDUCT_REQ_CMD => exact (hend _).leads s hs
      | TRANSACTION_REQ_CMD => exact (hend _).leads s hs
      | _ => exact hs.of_view (Frames.after_eq hereView (endCommand _ _) s)
  · rw [if_neg hsuccess]
    exact (here_eepFailure _ _).leads s hs

theorem here_chuErrorCode {tmpStr : List String} {l4 r4 : String}
    (hkept : r4 = "0004" → s.tParas.giProcessReversedCMD ≠ 0) :
    Leads (Here s) (Here s) (chuErrorCode (enableCashcardAt depth) tmpStr l4 r4) := by
  unfold chuErrorCode
  by_cases hr4 : r4 = "0004"
  · constructor
    intro s' hs'
    have hreversed : s'.tParas.giProcessReversedCMD ≠ 0 := hs'.tParas ▸ hkept hr4
    rw [if_pos hr4, after_get_bind, if_neg hreversed]
    exact Leads.leads s' hs'
  · simp only [if_neg hr4]
    infer_instance

theorem here_chuDebitFail {tmpStr : List String}
    (hkept : reversedCode tmpStr → s.tParas.giProcessReversedCMD ≠ 0) :
    Leads (Here s) (Here s) (chuDebitFail (enableCashcardAt depth) tmpStr) := by
  unfold chuDebitFail
  rcases lt_or_ge 6 tmpStr.length with hlength | hlength
  · rw [index_of_lt hlength, pure_bind]
    cases hr4 : substr (tmpStr.getD 6 "") 5 8 with
    | none =>
        simp only [orThrow_none, throw_bind]
        infer_instance
    | some r4 =>
        have hcode (l4 : String) :
            Leads (Here s) (Here s) (chuErrorCode (enableCashcardAt depth) tmpStr l4 r4) :=
          here_chuErrorCode fun h4 => hkept (by rw [reversedCode, hr4, h4])
        simp only [orThrow_some, pure_bind]
        infer_instance
  · rw [index_of_le hlength, throw_bind]
    infer_instance

theorem here_processCHU (hdoing : s.tExit.giDeductionStatus = .Doingdeduction) {eventData : String}
    (hfailed : ∀ iRC tmpStr, chuReply eventData = some (103, iRC, tmpStr) →
      ¬ReportsDebit s.tParas iRC tmpStr) (hnone : Unlooked s) :
    Here s (after (processCHU (enableCashcardAt depth) eventData) s) := by
  rcases @processCHU_underway _ depth hdoing eventData with
    ⟨fiLastCHUCmd, sent, hquiet⟩ | ⟨-, iRC, tmpStr, hreply, -, hdebit⟩
  · rw [hquiet]
    exact ⟨rfl, rfl, hnone⟩
  have hreports := hfailed iRC tmpStr hreply
  have h12 : iRC ≠ 12 := fun h12 => hreports (Or.inl h12)
  rcases hdebit with ⟨-, hafter⟩ | ⟨-, hlate, -⟩
  · rw [hafter, chuDebited, if_neg h12]
    by_cases h13 : iRC = 13
    · rw [if_pos h13]
      refine (here_chuDebitFail fun hcode hreversed => hreports (Or.inr ⟨h13, hcode, hreversed⟩)).leads _ ?_
      exact ⟨rfl, rfl, hnone⟩
    · rw [if_neg h13]
      refine Leads.leads (P := Here s) _ ?_
      exact ⟨rfl, rfl, hnone⟩
  · exact absurd hlate h12

/-- An answer that gives the deduction up is served. -/
theorem here_serve (hdoing : s.tExit.giDeductionStatus = .Doingdeduction) {event : Event}
    (hgives : GivesUp s event) : requestedFor (after (serve depth event) s) = requestedFor s := by
  have hcalled (m : Op Unit) (hm : Here (called s event) (after m (called s event))) :
      requestedFor (after (do call (.handleEvent event); m) s) = requestedFor s := by
    rw [after_call_bind]
    exact hm.requestedFor
  rw [serve]
  refine hcalled _ ?_
  cases event with
  | lcsc eventData =>
      obtain ⟨hother, hshown, hnone⟩ := hgives
      exact here_processLCSC (s := called s _) hother hshown hnone
  | upt cmd eventData =>
      obtain ⟨rfl, hfailed, hnone⟩ := hgives
      rw [handleEvent, processUPT, if_neg (by decide), if_pos rfl]
      refine (here_uptPayment hfailed _).leads _ ?_
      exact ⟨rfl, rfl, hnone⟩
  | eep event => exact here_processEEP (s := called s _) hgives.2 hgives.1
  | chu eventData => exact here_processCHU (s := called s _) hdoing hgives.1 hgives.2
  | _ => exact hgives.elim

end Answers

/-! ## Every reachable state -/

/-- After a run of any events, while a deduction is under way, an event that is spared or that gives
the deduction up does not swap the vehicle. -/
theorem vehicle_held (depth : ℕ) (events : List Event) {s : Station} (hs : NewExit s)
    (hdoing : (history depth events s).tExit.giDeductionStatus = .Doingdeduction) {event : Event}
    (hspares : Spares (history depth events s) event ∨ GivesUp (history depth events s) event) :
    requestedFor (after (serve depth event) (history depth events s)) =
      requestedFor (history depth events s) := by
  have hbooks : Books s := ⟨hs.iType, hs.noEntry, by rw [hs.noCalls]; trivial⟩
  have hreached := history_records hbooks depth events
  rcases hspares with hspares | hgives
  · have hsame := @debited_serve _ depth hreached.iType hreached.noEntry hdoing event hspares
    simp only [debited, Prod.mk.injEq] at hsame
    simp only [requestedFor, hsame]
  · exact here_serve hdoing hgives

/-- The LCSC module answers a status request while a deduction is under way. -/
theorem vehicle_held_status :
    requestedFor (after (serve 3 (.lcsc "msgStatus=0,readerMode=1")) deductingExit) =
      requestedFor deductingExit := by
  have hstatus : lcscStatus "msgStatus=0,readerMode=1" = 0 := by decide +kernel
  apply vehicle_held
  · exact newExit_readerExit
  · decide +kernel
  · refine Or.inl ⟨?_, ?_, ?_, ?_, ?_, ?_⟩ <;> rw [hstatus]
    · nofun
    · nofun
    · nofun
    · nofun
    · decide
    · exact fun hfailed => absurd (by decide) hfailed

/-- The antenna reads a number while the card of another vehicle is debited. -/
theorem not_vehicle_held :
    NewExit readerExit ∧ deductingExit.tExit.giDeductionStatus = .Doingdeduction ∧
      (after (serve 3 (.antennaIUCome "1234567890")) deductingExit).tExit.giDeductionStatus =
        .Doingdeduction ∧
      requestedFor (after (serve 3 (.antennaIUCome "1234567890")) deductingExit) ≠
        requestedFor deductingExit := by
  refine ⟨newExit_readerExit, by decide +kernel, by decide +kernel, ?_⟩
  intro hsame
  have hIU := congrArg Prod.fst hsame
  revert hIU
  decide +kernel

end LinuxPBS.Operation

import LinuxPBS.Operation.Closing
import LinuxPBS.Operation.Walk

/-!
# A late answer of the EEP client

`TRANSACTION_DATA` may come after its vehicle has left or after the next one has been
read.  `processEEPTransData` compares the OBU only when the deduction was successful, and
then a late answer is written to the exit it belongs to.  All other results are taken for
results of the current vehicle: `Harmless` says when they change nothing of it.

A result 7 is never harmless for a vehicle with another number: that vehicle is recorded
under the number of the answer, and the barrier opens.
-/

set_option synthInstance.maxSize 10000

namespace LinuxPBS.Operation

open Handler CxxText Common

/-! ## Late answers -/

/-- A call that opens the barrier. -/
def isOpening : Call → Bool
  | .openBarrier _ => true
  | _ => false

/-- The vehicle at the barrier is the same as before, and so are the barrier and the readers. -/
structure Untouched (s s' : Station) : Prop where
  barrier : s'.calls.countP isOpening = s.calls.countP isOpening
  tExit : s'.tExit = s.tExit
  sEnableReader : s'.tProcess.sEnableReader = s.tProcess.sEnableReader

/-- The event is handed to `processEEPTransData`. -/
structure Answers (event : EepEvent) (transData : TransactionData) : Prop where
  messageStatus : event.messageStatus = .SUCCESS
  message : event.message = .TRANSACTION_DATA transData
  commandReqType : event.commandReqType = .UNKNOWN_REQ_CMD ∨
    event.commandReqType = .DEDUCT_REQ_CMD ∨ event.commandReqType = .TRANSACTION_REQ_CMD

/-- The number of the OBU an answer is about, as `processEEPTransData` writes it. -/
def sObuLabel (transData : TransactionData) : String := decimalIntToHexString transData.obuLabel 5

/-- The answer is about another vehicle, or there is none on loop A. -/
def Late (s : Station) (transData : TransactionData) : Prop :=
  sObuLabel transData ≠ s.tExit.sIUNo ∨ s.env.gbLoopApresent s.asked = false

/-- The status after a deduction that was refused; none when no violation is reported. -/
def refusedStatus (transData : TransactionData) : Option EProcessStatus :=
  if transData.frontendPaymentViolation = 8 then some .InsufficientBalance
  else if transData.frontendPaymentViolation ≠ 0 then some .CardFault
  else if transData.backendPaymentViolation ≠ 0 then some .WaitingCard
  else none

/-- A late answer that changes nothing: what it would set is set already. -/
structure Harmless (s : Station) (transData : TransactionData) : Prop where
  accepted : transData.resultDeduction ≠ 7
  retried : transData.resultDeduction = 9 → s.tProcess.sEnableReader = true
  unknown : transData.resultDeduction = 5 → s.tExit.iEEPPaymentResult = 5
  refused : transData.resultDeduction = 0 → ∀ status ∈ refusedStatus transData,
    s.tExit.giDeductionStatus = status ∧ s.tProcess.sEnableReader = true

/-! ## The view of the vehicle at the barrier -/

/-- What a late answer has to leave alone. -/
@[reducible] def barrierView (s : Station) : ℕ × TExit × Bool :=
  (s.calls.countP isOpening, s.tExit, s.tProcess.sEnableReader)

theorem untouched_iff {s s' : Station} : Untouched s s' ↔ barrierView s' = barrierView s := by
  constructor
  · intro h
    rw [barrierView, barrierView, h.barrier, h.tExit, h.sEnableReader]
  · intro h
    simp only [Prod.mk.injEq] at h
    exact ⟨h.1, h.2.1, h.2.2⟩

instance (delay : ℕ) : Frames barrierView (eepInq delay) := by
  unfold eepInq
  infer_instance

instance (obu : String) : Frames barrierView (sendMsg2OBU obu) := by
  unfold sendMsg2OBU
  infer_instance

instance (bEnable : Bool) : Frames barrierView (switchReaders bEnable) := by
  unfold switchReaders
  infer_instance

/-- What comes behind a procedure and leaves the vehicle alone. -/
theorem barrierView_bind {α β : Type} (m : Op α) (k : α → Op β) [hk : ∀ a, Frames barrierView (k a)]
    (s : Station) : barrierView (after (m >>= k) s) = barrierView (after m s) := by
  rcases after_bind m k s with hleft | ⟨a, hright⟩
  · rw [hleft]
  · rw [hright, (hk a).frames]

/-- The readers are on, or they can be switched on without a look-up. -/
def Ready (depth : ℕ) (s : Station) : Prop :=
  s.tProcess.sEnableReader = true ∨ (0 < depth ∧ lookUpLPN s = "")

/-- `EnableCashcard(true)` switches the readers on. -/
theorem barrierView_enableCashcardAt {depth : ℕ} {s : Station} (hready : Ready depth s) :
    barrierView (after (enableCashcardAt depth true) s) = (s.calls.countP isOpening, s.tExit, true) := by
  cases depth with
  | zero =>
      obtain hon | ⟨hdepth, -⟩ := hready
      · rw [enableCashcardAt, after_throw, barrierView, hon]
      · omega
  | succ depth =>
      rw [enableCashcardAt, enableCashcardBody, after_get_bind]
      by_cases hon : s.tProcess.sEnableReader = true
      · rw [if_pos hon.symm, after_pure, barrierView, hon]
      · have hlpn : lookUpLPN { s with tProcess.sEnableReader := true } = "" := by
          obtain h | ⟨-, hlookUp⟩ := hready
          · exact absurd h hon
          · exact hlookUp
        rw [if_neg (fun h => hon h.symm), after_modify_bind, after_get_bind]
        simp only [hlpn, ne_eq, not_true_eq_false, if_false, after_pure_bind]
        rw [if_neg (by decide), Frames.after_eq barrierView]

/-! ## The results -/

/-- A deduction that was refused: the status is set and the readers are switched on. -/
theorem barrierView_eepRefused {depth : ℕ} {s : Station} (hready : Ready depth s)
    (status : EProcessStatus) (reason : String) :
    barrierView (after (eepRefused (enableCashcardAt depth) status reason) s) =
      (s.calls.countP isOpening, { s.tExit with giDeductionStatus := status }, true) := by
  simp only [eepRefused, sendMsg2Server, sendMsg2OBU, bind_assoc, after_get_bind, after_send_bind,
    after_modify_bind]
  rw [barrierView_bind]
  refine barrierView_enableCashcardAt ?_
  exact hready

/-- A deduction that was successful, of another vehicle. -/
theorem barrierView_eepSuccess {s : Station} {transData : TransactionData}
    (hlate : Late s transData) : barrierView (after (eepSuccess transData) s) = barrierView s := by
  rw [eepSuccess, after_get_bind]
  by_cases hlabel : sObuLabel transData = s.tExit.sIUNo
  · have hgone := hlate.resolve_left (not_not.mpr hlabel)
    rw [sObuLabel] at hlabel
    rw [if_pos hlabel, after_ask_bind, hgone, if_neg (by decide), after_send]
  · rw [sObuLabel] at hlabel
    rw [if_neg hlabel, after_send]

/-- The result switches the readers on. -/
def SwitchesReaders (transData : TransactionData) : Prop :=
  transData.resultDeduction = 9 ∨
    transData.resultDeduction = 0 ∧ (refusedStatus transData).isSome = true

/-- The vehicle behind a late answer that is not a result 7. -/
def behindAnswer (transData : TransactionData) (s : Station) : ℕ × TExit × Bool :=
  if transData.resultDeduction = 9 then (s.calls.countP isOpening, s.tExit, true)
  else if transData.resultDeduction = 5 then
    (s.calls.countP isOpening, { s.tExit with iEEPPaymentResult := 5 }, s.tProcess.sEnableReader)
  else if transData.resultDeduction = 0 then
    match refusedStatus transData with
    | some status => (s.calls.countP isOpening, { s.tExit with giDeductionStatus := status }, true)
    | none => barrierView s
  else barrierView s

theorem barrierView_processEEPTransData {depth : ℕ} {s : Station} {transData : TransactionData}
    (hlate : Late s transData) (haccepted : transData.resultDeduction ≠ 7)
    (hready : SwitchesReaders transData → Ready depth s) :
    barrierView (after (processEEPTransData (enableCashcardAt depth) transData) s) =
      behindAnswer transData s := by
  rw [processEEPTransData, behindAnswer]
  by_cases hsuccess : transData.resultDeduction = 1 ∨ transData.resultDeduction = 2 ∨
      transData.resultDeduction = 8
  · rw [if_pos hsuccess, if_neg (by omega), if_neg (by omega), if_neg (by omega)]
    exact barrierView_eepSuccess hlate
  rw [if_neg hsuccess, if_neg haccepted]
  by_cases h9 : transData.resultDeduction = 9
  · rw [if_pos h9, if_pos h9, barrierView_bind,
      barrierView_enableCashcardAt (hready (Or.inl h9))]
  rw [if_neg h9, if_neg h9]
  by_cases h5 : transData.resultDeduction = 5
  · rw [if_pos h5, if_pos h5, after_modify]
  rw [if_neg h5, if_neg h5]
  by_cases h0 : transData.resultDeduction = 0
  · have hrefused (hstatus : (refusedStatus transData).isSome = true) :=
      barrierView_eepRefused (hready (Or.inr ⟨h0, hstatus⟩))
    rw [if_pos h0, if_pos h0]
    rw [refusedStatus] at hrefused ⊢
    split_ifs at hrefused ⊢
    · exact hrefused rfl _ _
    · exact hrefused rfl _ _
    · exact hrefused rfl _ _
    · rfl
  · rw [if_neg h0, if_neg h0, after_pure]

/-! ## Result 7 -/

/-- `Openbarrier` opens the barrier, unless a card is in the reader or it is held open. -/
theorem exceeds_openbarrier {s : Station} (hin : s.tProcess.giCardIsIn ≠ 1)
    (hcontinue : s.tProcess.giBarrierContinueOpened ≠ 1) (iReason : ℤ) :
    Exceeds isOpening (s.calls.countP isOpening) (after (openbarrier iReason) s) := by
  rw [openbarrier, after_get_bind, if_neg hin, if_neg hcontinue, after_modify_bind, after_call_bind]
  have hopened :
      s.calls.countP isOpening < (Call.openBarrier iReason :: s.calls).countP isOpening := by
    rw [List.countP_cons_of_pos rfl]
    exact Nat.lt_succ_self _
  refine Leads.leads (P := Exceeds isOpening (s.calls.countP isOpening)) _ ?_
  exact hopened

/-- `Openbarrier` does nothing. -/
theorem openbarrier_held {s : Station} (hheld : s.tProcess.giCardIsIn = 1 ∨
    s.tProcess.giBarrierContinueOpened = 1) (iReason : ℤ) : after (openbarrier iReason) s = s := by
  rw [openbarrier, after_get_bind]
  by_cases hin : s.tProcess.giCardIsIn = 1
  · rw [if_pos hin, after_pure]
  · rw [if_neg hin, if_pos (hheld.resolve_left hin), after_pure]

/-- `Openbarrier` does nothing or opens the barrier. -/
theorem after_openbarrier (s : Station) (iReason : ℤ) :
    after (openbarrier iReason) s = s ∨
      Exceeds isOpening (s.calls.countP isOpening) (after (openbarrier iReason) s) := by
  by_cases hheld : s.tProcess.giCardIsIn = 1 ∨ s.tProcess.giBarrierContinueOpened = 1
  · exact Or.inl (openbarrier_held hheld iReason)
  · rw [not_or] at hheld
    exact Or.inr (exceeds_openbarrier hheld.1 hheld.2 iReason)

/-- `SaveExit` does not change the number of the vehicle and does not open the barrier. -/
theorem saveExit_taken (s : Station) :
    (after saveExit s).tExit.sIUNo = s.tExit.sIUNo ∧
      (after saveExit s).calls.countP isOpening = s.calls.countP isOpening := by
  by_cases hIU : s.tExit.sIUNo = ""
  · rw [after_saveExit_unknown hIU]
    exact ⟨rfl, rfl⟩
  obtain ⟨row, ret, -, -, -, hsaved⟩ := after_saveExit hIU
  have hlane := hsaved.lane_eq
  simp only [lane, Lane.mk.injEq] at hlane
  simp only [hlane]
  exact ⟨trivial, rfl⟩

/-- After a result 7 the vehicle has the number of the answer, or the barrier has been opened. -/
theorem eepRejectCode7_taken (s : Station) (transData : TransactionData) :
    (after (eepRejectCode7 transData) s).tExit.sIUNo = sObuLabel transData ∨
      Exceeds isOpening (s.calls.countP isOpening) (after (eepRejectCode7 transData) s) := by
  obtain ⟨s₁, hclose, hIU₁, hopenings₁⟩ : ∃ s₁, after (eepRejectCode7 transData) s =
      after (saveExit >>= fun _ => openbarrier 0) s₁ ∧
        s₁.tExit.sIUNo = sObuLabel transData ∧ s₁.calls.countP isOpening = s.calls.countP isOpening :=
    ⟨_, rfl, rfl, rfl⟩
  obtain ⟨hIU, hopenings⟩ := saveExit_taken s₁
  rw [hclose]
  rcases after_bind saveExit (fun _ => openbarrier 0) s₁ with hleft | ⟨-, hright⟩
  · rw [hleft, hIU]
    exact Or.inl hIU₁
  · rw [hright]
    rcases after_openbarrier (after saveExit s₁) 0 with hsame | hopened
    · rw [hsame, hIU]
      exact Or.inl hIU₁
    · rw [hopenings, hopenings₁] at hopened
      exact Or.inr hopened

/-! ## Serving an answer -/

/-- An answer that was accepted changes nothing exactly when it is harmless. -/
theorem behindAnswer_eq_iff {s : Station} {transData : TransactionData}
    (haccepted : transData.resultDeduction ≠ 7) :
    behindAnswer transData s = barrierView s ↔ Harmless s transData := by
  constructor
  · intro h
    rw [behindAnswer] at h
    refine ⟨haccepted, fun h9 => ?_, fun h5 => ?_, fun h0 status hstatus => ?_⟩
    · rw [if_pos h9] at h
      exact (congrArg (·.2.2) h).symm
    · rw [if_neg (by omega), if_pos h5] at h
      exact (congrArg (·.2.1.iEEPPaymentResult) h).symm
    · rw [if_neg (by omega), if_neg (by omega), if_pos h0, Option.mem_def.mp hstatus] at h
      exact ⟨(congrArg (·.2.1.giDeductionStatus) h).symm, (congrArg (·.2.2) h).symm⟩
  · intro h
    rw [behindAnswer]
    split_ifs with h9 h5 h0
    · rw [barrierView, h.retried h9]
    · rw [barrierView, ← h.unknown h5]
    · cases hstatus : refusedStatus transData with
      | none => rfl
      | some status =>
          obtain ⟨hsame, hon⟩ := h.refused h0 status hstatus
          simp only [barrierView, ← hsame, hon]
    · rfl

/-- Serving an answer is `processEEPTransData`. -/
theorem serve_answer {event : EepEvent} {transData : TransactionData}
    (hanswer : Answers event transData) (depth : ℕ) (s : Station) :
    ∃ fiLastEEPCmd, after (serve depth (.eep event)) s =
      after (processEEPTransData (enableCashcardAt depth) transData)
        { s with
          calls := .handleEvent (.eep event) :: s.calls
          tProcess.fiLastEEPCmd := fiLastEEPCmd } := by
  obtain ⟨hstatus, hmessage, hcmd⟩ := hanswer
  simp only [serve, after_call_bind, handleEvent, processEEP, after_catchException, if_pos hstatus,
    hmessage]
  obtain hcmd | hcmd | hcmd := hcmd
  · rw [hcmd, if_pos rfl]
    exact ⟨s.tProcess.fiLastEEPCmd, rfl⟩
  · rw [hcmd, if_neg (by decide)]
    exact ⟨_, rfl⟩
  · rw [hcmd, if_neg (by decide)]
    exact ⟨_, rfl⟩

/-! ## When a late answer is harmless -/

section Served

variable {event : EepEvent} {transData : TransactionData} {depth : ℕ} {s : Station}

/-- A late answer that was accepted changes nothing exactly when it is harmless. -/
theorem serve_untouched_iff (hanswer : Answers event transData) (hlate : Late s transData)
    (haccepted : transData.resultDeduction ≠ 7)
    (hready : SwitchesReaders transData → Ready depth s) :
    Untouched s (after (serve depth (.eep event)) s) ↔ Harmless s transData := by
  obtain ⟨fiLastEEPCmd, hserve⟩ := serve_answer hanswer depth s
  have hview : barrierView (after (serve depth (.eep event)) s) = behindAnswer transData s := by
    rw [hserve]
    exact barrierView_processEEPTransData hlate haccepted hready
  rw [untouched_iff, hview, behindAnswer_eq_iff haccepted]

/-- What switches the readers on is only harmless when they are on. -/
theorem Harmless.ready (h : Harmless s transData) (hswitches : SwitchesReaders transData) :
    Ready depth s := by
  obtain h9 | ⟨h0, hstatus⟩ := hswitches
  · exact Or.inl (h.retried h9)
  · exact Or.inl (h.refused h0 _ (Option.some_get hstatus).symm).2

/-- A result 7 of another vehicle changes the vehicle or opens the barrier. -/
theorem serve_rejectCode7 (hanswer : Answers event transData)
    (hlabel : sObuLabel transData ≠ s.tExit.sIUNo) (h7 : transData.resultDeduction = 7) :
    ¬Untouched s (after (serve depth (.eep event)) s) := by
  obtain ⟨fiLastEEPCmd, hserve⟩ := serve_answer hanswer depth s
  rintro ⟨hbarrier, hexit, -⟩
  rw [hserve, processEEPTransData, if_neg (by omega), if_pos h7] at hbarrier hexit
  rcases eepRejectCode7_taken _ transData with htaken | hopened
  · rw [hexit] at htaken
    exact hlabel htaken.symm
  · rw [Exceeds, hbarrier] at hopened
    exact lt_irrefl _ hopened

/-- After a run of any events, a late answer that is harmless changes nothing of the vehicle, of
the barrier or of the readers.  No other answer of another vehicle is harmless, unless
`EnableCashcard` looks for a vehicle by its plate. -/
theorem lateAnswer_untouched (depth : ℕ) (events : List Event) (s : Station) {event : EepEvent}
    {transData : TransactionData} (hanswer : Answers event transData)
    (hlate : Late (history depth events s) transData) :
    (Harmless (history depth events s) transData →
      Untouched (history depth events s)
        (after (serve depth (.eep event)) (history depth events s))) ∧
    (0 < depth → lookUpLPN (history depth events s) = "" →
      sObuLabel transData ≠ (history depth events s).tExit.sIUNo →
      Untouched (history depth events s)
        (after (serve depth (.eep event)) (history depth events s)) →
      Harmless (history depth events s) transData) := by
  constructor
  · intro h
    exact (serve_untouched_iff hanswer hlate h.accepted h.ready).mpr h
  · intro hdepth hlookUp hlabel h
    by_cases h7 : transData.resultDeduction = 7
    · exact absurd h (serve_rejectCode7 hanswer hlabel h7)
    · exact (serve_untouched_iff hanswer hlate h7 fun _ => Or.inr ⟨hdepth, hlookUp⟩).mp h

end Served

/-! ## A double deduction is suspected -/

/-- The vehicle `1111111111` waits for its entry time. -/
def waitingExit : Station := history 3 [.antennaIUCome "1111111111"] emptyExit

/-- The result for the OBU `2222222222`. -/
def otherOBU (resultDeduction : ℕ) : TransactionData :=
  { resultDeduction, obuLabel := 0x2222222222 }

theorem late_otherOBU (resultDeduction : ℕ) : Late waitingExit (otherOBU resultDeduction) := by
  left
  show decimalIntToHexString 0x2222222222 5 ≠ waitingExit.tExit.sIUNo
  decide +kernel

theorem lateAnswer_untouched_success :
    (Harmless waitingExit (otherOBU 1) → Untouched waitingExit
      (after (serve 3 (.eep { message := .TRANSACTION_DATA (otherOBU 1) })) waitingExit)) ∧
    (0 < 3 → lookUpLPN waitingExit = "" → sObuLabel (otherOBU 1) ≠ waitingExit.tExit.sIUNo →
      Untouched waitingExit
        (after (serve 3 (.eep { message := .TRANSACTION_DATA (otherOBU 1) })) waitingExit) →
      Harmless waitingExit (otherOBU 1)) := by
  apply lateAnswer_untouched
  · exact ⟨rfl, rfl, Or.inl rfl⟩
  · exact late_otherOBU 1

/-- The waiting vehicle is recorded under the number of the late answer, and the barrier opens. -/
theorem not_lateAnswer_untouched :
    NewExit emptyExit ∧ Late waitingExit (otherOBU 7) ∧
      ¬Untouched waitingExit
        (after (serve 3 (.eep { message := .TRANSACTION_DATA (otherOBU 7) })) waitingExit) := by
  refine ⟨newExit_emptyExit, late_otherOBU 7, ?_⟩
  rintro ⟨hbarrier, -, -⟩
  revert hbarrier
  decide +kernel

end LinuxPBS.Operation

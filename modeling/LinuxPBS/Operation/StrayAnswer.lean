import LinuxPBS.Operation.Underway

/-!
# A stray answer of a card reader

The events of the LCSC and of the UPOS tell how a command went.  `ProcessLCSC` gets the ones
of six commands and looks only at `msgStatus`: a status command that times out while a
deduction is under way is taken for the end of the deduction.  `strayAnswer_held` says which
events that are not the outcome of the deduction leave it alone.
-/

set_option synthInstance.maxSize 10000

namespace LinuxPBS.Operation

open Handler CxxText Common

/-! ## The events of the readers -/

/-- The LCSC events of `OperationEventType`. -/
inductive LcscEvent
  | LcscReaderStatus
  | LcscReaderLogin
  | LcscReaderLogout
  | LcscReaderGetCardID
  | LcscReaderGetCardBalance
  | LcscReaderGetCardDeduct
  | LcscReaderGetCardRecord
  | LcscReaderGetCardFlush
  | LcscReaderGetTime
  | LcscReaderSetTime
  | LcscReaderUploadCFGFile
  | LcscReaderUploadCILFile
  | LcscReaderUploadBLFile
  deriving DecidableEq, Repr

/-- `handleEventOnIo` hands the event to `ProcessLCSC`. -/
def LcscEvent.isProcessed : LcscEvent → Bool
  | .LcscReaderStatus | .LcscReaderGetCardID | .LcscReaderGetCardBalance
  | .LcscReaderGetCardDeduct | .LcscReaderGetCardRecord | .LcscReaderGetCardFlush => true
  | _ => false

/-- What the two card readers report. -/
inductive ReaderEvent
  | lcsc (event : LcscEvent) (eventData : String)
  | upt (cmd : UptCmd) (eventData : String)
  deriving DecidableEq

/-- `handleEventOnIo`, an event of a card reader. -/
def serveReader (depth : ℕ) : ReaderEvent → Op Unit
  | .lcsc event eventData => if event.isProcessed then serve depth (.lcsc eventData) else pure ()
  | .upt cmd eventData => serve depth (.upt cmd eventData)

/-! ## Stray answers -/

/-- The device that has been asked for the last deduction. -/
def deductingDevice (s : Station) : Option DeviceType := (requests s).head?.map Prod.fst

/-- The event tells how the deduction went. -/
def IsOutcome (s : Station) : ReaderEvent → Prop
  | .lcsc event _ => deductingDevice s = some .LCSC ∧ event = .LcscReaderGetCardDeduct
  | .upt cmd _ => deductingDevice s = some .UPOS ∧ cmd = .PAYMENT_MODE_AUTO_REQUEST

instance (s : Station) (event : ReaderEvent) : Decidable (IsOutcome s event) := by
  cases event <;> exact inferInstanceAs (Decidable (_ ∧ _))

/-- A deduction is under way, and the event is not its outcome. -/
structure Stray (s : Station) (event : ReaderEvent) : Prop where
  doing : s.tExit.giDeductionStatus = .Doingdeduction
  other : ¬IsOutcome s event

/-- The deduction goes on as it was. -/
structure Held (s s' : Station) : Prop where
  giDeductionStatus : s'.tExit.giDeductionStatus = s.tExit.giDeductionStatus
  sPaidAmt : s'.tExit.sPaidAmt = s.tExit.sPaidAmt
  requests : requests s' = requests s

theorem Held.of_debited {s s' : Station} (h : debited s' = debited s) : Held s s' := by
  simp only [Prod.mk.injEq] at h
  exact ⟨h.1, h.2.2.2.1, h.2.2.2.2⟩

/-- An event that `handleEventOnIo` drops, or that is spared. -/
def SparesReader (s : Station) : ReaderEvent → Prop
  | .lcsc event eventData => event.isProcessed = true → SparesLcsc s eventData
  | .upt cmd eventData => SparesUpt s cmd eventData

/-- The event reports a card. -/
def ReaderEvent.isRead : ReaderEvent → Bool
  | .lcsc _ eventData => lcscStatus eventData = 4
  | .upt cmd eventData => cmd = .CARD_DETECT_REQUEST && uptStatus eventData = 0

/-! ## What ends a deduction -/

/-- No deduction is under way. -/
def Ended (s : Station) : Prop := s.tExit.giDeductionStatus ≠ .Doingdeduction

instance : Settled Ended where
  settled s s' hlane hs := by
    have hstatus : s'.tExit.giDeductionStatus = s.tExit.giDeductionStatus :=
      congrArg Lane.giDeductionStatus hlane
    rwa [Ended, hstatus]

instance (c : Call) : Leads Ended Ended (call c) := ⟨fun _ hs => hs⟩

instance : Leads Ended Ended clearme where
  leads s hs := by
    simp only [clearme, after_call_bind, after_modify_bind, after_get_bind, after_ite, after_modify]
    split
    · exact hs
    · exact nofun

instance : Leads Ended Ended saveExit where
  leads s hs := by
    by_cases hIU : s.tExit.sIUNo = ""
    · rw [after_saveExit_unknown hIU]
      exact hs
    · obtain ⟨row, ret, -, -, -, hsaved⟩ := after_saveExit hIU
      have hstatus : (after saveExit s).tExit.giDeductionStatus = s.tExit.giDeductionStatus := by
        have hlane := congrArg Lane.giDeductionStatus hsaved.lane_eq
        exact hlane
      rwa [Ended, hstatus]

instance (iStatus : TransType) : Leads Ended Ended (closeExitOperation iStatus) := by
  have hclosing : Leads Ended Ended
      (modify fun s => { s with tExit := closingStatus iStatus s.tExit } : Op Unit) := by
    constructor
    intro s hs
    cases iStatus <;> exact hs
  unfold closeExitOperation
  infer_instance

/-- No deduction is under way for the vehicle at the exit, which is known. -/
structure EndedHere (s : Station) : Prop where
  ended : Ended s
  iType : s.gtStation.iType = .tiExit
  known : s.tExit.sIUNo ≠ ""

instance : Settled EndedHere where
  settled s s' hlane hs := by
    have hended : Ended s' := Settled.settled s s' hlane hs.ended
    have hiType : s'.gtStation.iType = s.gtStation.iType := congrArg Lane.iType hlane
    have hIU : s'.tExit.sIUNo = s.tExit.sIUNo := congrArg Lane.exitIU hlane
    exact ⟨hended, hiType ▸ hs.iType, hIU ▸ hs.known⟩

instance (depth : ℕ) (bEnable : Bool) :
    Leads EndedHere EndedHere (enableCashcardAt depth bEnable) :=
  enableCashcardAt_of_findsNone (fun _ hs => findsNone_known hs.iType hs.known bEnable) depth

section Ends

variable {s : Station} {depth : ℕ} {eventData : String}

theorem ended_retryLCSCLastCommand (hexit : s.gtStation.iType = .tiExit)
    (hknown : s.tExit.sIUNo ≠ "") (hpresent : s.env.gbLoopApresent s.asked = true) :
    Ended (after (retryLCSCLastCommand (enableCashcardAt depth)) s) := by
  rw [retryLCSCLastCommand, after_ask_bind, hpresent, if_pos rfl, after_get_bind]
  dsimp only
  rw [sendMsg2Server, after_send_bind, after_modify_bind]
  refine EndedHere.ended (Leads.leads (P := EndedHere) _ ?_)
  exact ⟨by rintro ⟨⟩, hexit, hknown⟩

theorem ended_cardRejected (hexit : s.gtStation.iType = .tiExit) (hknown : s.tExit.sIUNo ≠ "")
    {status : EProcessStatus} (hstatus : status ≠ .Doingdeduction) (reason : String) :
    Ended (after (cardRejected (enableCashcardAt depth) status reason) s) := by
  rw [cardRejected, after_modify_bind]
  refine EndedHere.ended (Leads.leads (P := EndedHere) _ ?_)
  exact ⟨hstatus, hexit, hknown⟩

theorem feeOf_some {text : String} (htext : (stof text).isSome = true) :
    ∃ fee, (feeOf text : Op ℚ) = pure fee := by
  obtain ⟨value, hvalue⟩ := Option.isSome_iff_exists.mp htext
  refine ⟨gfeeFormat value, ?_⟩
  rw [feeOf, hvalue, orThrow_some, pure_bind]

/-- An amount that can be read is noted, and the procedure goes on. -/
theorem ended_amount {text : String} (htext : text = "" ∨ (stof text).isSome = true)
    {note : ℚ → Station → Station} {rest : Op Unit} (hrest : ∀ t, Ended (after rest t)) :
    Ended (after
      (if text ≠ "" then feeOf text >>= fun amount => modify (note amount) >>= fun _ => rest
        else rest) s) := by
  by_cases hempty : text = ""
  · rw [if_neg (not_not.mpr hempty)]
    exact hrest s
  · obtain ⟨amount, hamount⟩ := feeOf_some (htext.resolve_left hempty)
    rw [if_pos hempty, hamount, pure_bind, after_modify_bind]
    exact hrest _

/-- A deduction that is reported with amounts that can be read has ended. -/
theorem ended_debitOK {sPaidAmt sBal sTopupAmt : String}
    (hpaid : sPaidAmt = "" ∨ (stof sPaidAmt).isSome = true) (hbal : (stof sBal).isSome = true)
    (htopup : sTopupAmt = "" ∨ (stof sTopupAmt).isSome = true)
    (sIUNO sCardNo : String) (iCardType : ℤ) (iDevicetype : DeviceType) :
    Ended (after (debitOK sIUNO sCardNo sPaidAmt sBal iCardType sTopupAmt iDevicetype) s) := by
  have hnonempty : sBal ≠ "" := by
    rintro rfl
    exact absurd hbal (by decide)
  obtain ⟨balance, hbalance⟩ := feeOf_some hbal
  have hvehicle : Leads Ended Ended (setVehicle sIUNO) := ⟨fun _ hs => hs⟩
  have hclose : Leads Ended Ended (do
      if sIUNO ≠ "" ∧ (← get).tExit.sIUNo ≠ sIUNO ∧ iDevicetype = .CHU then
        setVehicle sIUNO
        closeExitOperation .UpdateCHUTrans
      else
        closeExitOperation .DeductionOK : Op Unit) := by
    infer_instance
  unfold debitOK
  dsimp only
  rw [after_call_bind, after_modify_bind]
  apply ended_amount hpaid
  intro t
  rw [after_modify_bind]
  apply ended_amount htopup
  intro t
  rw [after_modify_bind, if_pos hnonempty, hbalance, pure_bind, after_modify_bind,
    after_modify_bind]
  apply hclose.leads
  intro hdoing
  cases hdoing

/-- An LCSC event that reports no card and after which the deduction is under way was spared. -/
theorem sparesLcsc_of_doing (hexit : s.gtStation.iType = .tiExit) (hknown : s.tExit.sIUNo ≠ "")
    (hread : lcscStatus eventData ≠ 4)
    (hdoing : ¬Ended (after (processLCSC (enableCashcardAt depth) eventData) s)) :
    SparesLcsc s eventData := by
  have hnone : FindsNone false s := findsNone_known hexit hknown false
  have hretry (hretried : after (processLCSC (enableCashcardAt depth) eventData) s =
      after (retryLCSCLastCommand (enableCashcardAt depth)) s) : SparesRetry s := by
    refine ⟨?_, hnone⟩
    by_contra hpresent
    rw [Bool.not_eq_false] at hpresent
    exact hdoing (hretried ▸ ended_retryLCSCLastCommand hexit hknown hpresent)
  have hentry : s.gtStation.iType ≠ .tientry := by
    rw [hexit]
    decide
  unfold processLCSC at hdoing hretry
  dsimp only at hdoing hretry
  refine ⟨fun h => absurd h hread, fun h => absurd h hread, fun h6 => ?_, fun h8 hclosed => ?_,
    fun h18 => ?_, fun hfailed hidle => ?_⟩
  · unfold lcscStatus at h6
    by_contra hsome
    refine hdoing ?_
    simp only [h6]
    show Ended (after (lcscDeducted _ _) s)
    rw [lcscDeducted, after_get_bind, if_neg hentry]
    refine ended_debitOK (Or.inl rfl) ?_ (Or.inl rfl) _ _ _ _
    obtain ⟨value, hvalue⟩ := Option.ne_none_iff_exists'.mp hsome
    rw [formatToFloatString, hvalue]
    exact stof_setFeeFormat _
  · unfold lcscStatus at h8
    refine hretry ?_
    simp only [h8]
    show after (do if (← get).tProcess.gbBarrierOpened = false then
      retryLCSCLastCommand (enableCashcardAt depth)) s = _
    rw [after_get_bind, if_pos hclosed]
  · unfold lcscStatus at h18
    refine hdoing ?_
    simp only [h18]
    exact ended_cardRejected hexit hknown (by decide) "Card Expired"
  · unfold lcscStatus at hfailed hidle
    refine hretry ?_
    simp only [List.mem_cons, List.not_mem_nil, or_false, not_or] at hfailed
    obtain ⟨h0, h3, h4, h6, h7, h8, h22, h18⟩ := hfailed
    rw [if_neg h0, if_neg h3, if_neg h4, if_neg h6, if_neg h7, if_neg h8, if_neg h22, if_neg h18,
      if_neg hidle]

/-- A UPOS payment that can be read ends the deduction. -/
theorem ended_uptPaid {event : List (String × String)}
    (hfee : centsOf "cardFee" event ≠ none) (hbalance : centsOf "cardBalance" event ≠ none)
    (htype : stoi (lastText "cardType" event) ≠ none) : Ended (after (uptPaid event) s) := by
  obtain ⟨card_fee, hfee⟩ := Option.ne_none_iff_exists'.mp hfee
  obtain ⟨card_balance, hbalance⟩ := Option.ne_none_iff_exists'.mp hbalance
  obtain ⟨card_type, htype⟩ := Option.ne_none_iff_exists'.mp htype
  rw [uptPaid, hfee, hbalance, htype, orThrow_some, pure_bind, orThrow_some, pure_bind, after_get_bind]
  dsimp only
  rw [orThrow_some, pure_bind]
  exact ended_debitOK (Or.inr (stof_setFeeFormat _)) (stof_setFeeFormat _) (Or.inl rfl) _ _ _ _

/-- A UPOS event that reports no card and after which the deduction is under way was spared. -/
theorem sparesUpt_of_doing (hexit : s.gtStation.iType = .tiExit) (hknown : s.tExit.sIUNo ≠ "")
    (hstart : s.tExit.giDeductionStatus = .Doingdeduction) {cmd : UptCmd}
    (hread : cmd = .CARD_DETECT_REQUEST → uptStatus eventData ≠ 0)
    (hdoing : ¬Ended (after (processUPT (enableCashcardAt depth) cmd eventData) s)) :
    SparesUpt s cmd eventData := by
  refine ⟨fun hcmd hzero => absurd hzero (hread hcmd), fun hcmd hzero => ?_, fun hcmd htwo => ?_,
    fun hcmd => ?_⟩ <;>
    subst hcmd <;> unfold processUPT at hdoing <;> unfold uptStatus at * <;>
    dsimp only at hdoing
  · by_contra hall
    rw [not_or, not_or] at hall
    refine hdoing ?_
    simp only [hzero]
    show Ended (after (catchException (uptPaid (pairs eventData))) s)
    rw [after_catchException]
    exact ended_uptPaid hall.1 hall.2.1 hall.2.2
  · by_contra hpresent
    rw [Bool.not_eq_false] at hpresent
    refine hdoing ?_
    rw [if_neg (by decide), if_pos rfl, uptPayment, if_neg (by omega), if_pos htwo, after_ask_bind,
      hpresent, if_pos rfl, after_get_bind, if_pos (Or.inr hstart), after_modify_bind]
    refine EndedHere.ended (Leads.leads (P := EndedHere) _ ?_)
    exact ⟨by rintro ⟨⟩, hexit, hknown⟩
  · by_contra hother
    rw [not_or] at hother
    refine hdoing ?_
    rw [if_neg (by decide), if_pos rfl, uptPayment, if_neg hother.1, if_neg hother.2, after_ite]
    split
    · exact ended_cardRejected hexit hknown (by decide) "Card Expired"
    · rw [after_ite]
      split
      · exact ended_cardRejected hexit hknown (by decide) "Card Fault"
      · exact ended_cardRejected hexit hknown (by decide) "Deduction Error"

end Ends

/-! ## When a stray answer leaves the deduction alone -/

section Served

variable {s : Station} {depth : ℕ} {event : ReaderEvent}

theorem held_of_spares (hexit : s.gtStation.iType = .tiExit)
    (hdoing : s.tExit.giDeductionStatus = .Doingdeduction) (hspares : SparesReader s event) :
    Held s (after (serveReader depth event) s) := by
  cases event with
  | lcsc event eventData =>
      rw [serveReader, after_ite]
      split
      · rename_i hprocessed
        have hspared := hspares hprocessed
        refine Held.of_debited ?_
        rw [serve, after_call_bind, handleEvent]
        exact (debited_processLCSC (s := called s (.lcsc eventData)) hexit hdoing
          (hspared.called _)).trans rfl
      · exact ⟨rfl, rfl, rfl⟩
  | upt cmd eventData =>
      refine Held.of_debited ?_
      rw [serveReader, serve, after_call_bind, handleEvent]
      exact (debited_processUPT (s := called s (.upt cmd eventData)) hdoing
        (SparesUpt.called hspares _)).trans rfl

theorem spares_of_held (hexit : s.gtStation.iType = .tiExit) (hknown : s.tExit.sIUNo ≠ "")
    (hdoing : s.tExit.giDeductionStatus = .Doingdeduction) (hread : event.isRead = false)
    (hheld : Held s (after (serveReader depth event) s)) : SparesReader s event := by
  have hstill : ¬Ended (after (serveReader depth event) s) := fun hended =>
    hended (hheld.giDeductionStatus.trans hdoing)
  cases event with
  | lcsc event eventData =>
      intro hprocessed
      have hstatus : lcscStatus eventData ≠ 4 := of_decide_eq_false hread
      rw [serveReader, if_pos hprocessed, serve, after_call_bind, handleEvent] at hstill
      have hspared : SparesLcsc (called s (.lcsc eventData)) eventData :=
        sparesLcsc_of_doing hexit hknown hstatus hstill
      refine ⟨fun h => absurd h hstatus, fun h => absurd h hstatus, hspared.unread,
        fun h8 hclosed => ?_, hspared.valid, fun hother hidle => ?_⟩
      · exact ⟨(hspared.flushed h8 hclosed).left, (hspared.flushed h8 hclosed).findsNone⟩
      · exact ⟨(hspared.failed hother hidle).left, (hspared.failed hother hidle).findsNone⟩
  | upt cmd eventData =>
      have hstatus : cmd = .CARD_DETECT_REQUEST → uptStatus eventData ≠ 0 := by
        intro hcmd hzero
        rw [ReaderEvent.isRead, decide_eq_true hcmd, decide_eq_true hzero] at hread
        exact Bool.noConfusion hread
      rw [serveReader, serve, after_call_bind, handleEvent] at hstill
      have hspared : SparesUpt (called s (.upt cmd eventData)) cmd eventData :=
        sparesUpt_of_doing (s := called s (.upt cmd eventData)) hexit hknown hdoing hstatus hstill
      exact ⟨fun hcmd hzero => absurd hzero (hstatus hcmd), hspared.unread, hspared.left,
        hspared.valid⟩

end Served

/-- After a run of any events, a stray answer that is spared leaves the deduction alone.  For a
vehicle that is known, no other one does, unless it reports a card. -/
theorem strayAnswer_held (depth : ℕ) (events : List Event) {s : Station} (hs : NewExit s)
    {event : ReaderEvent} (hstray : Stray (history depth events s) event) :
    (SparesReader (history depth events s) event →
      Held (history depth events s) (after (serveReader depth event) (history depth events s))) ∧
    (event.isRead = false → (history depth events s).tExit.sIUNo ≠ "" →
      Held (history depth events s) (after (serveReader depth event) (history depth events s)) →
      SparesReader (history depth events s) event) := by
  have hbooks : Books s := ⟨hs.iType, hs.noEntry, by rw [hs.noCalls]; trivial⟩
  have hexit := (history_records hbooks depth events).iType
  exact ⟨held_of_spares hexit hstray.doing,
    fun hread hknown hheld => spares_of_held hexit hknown hstray.doing hread hheld⟩

/-! ## A status command that times out -/

/-- An exit with a stay that costs three dollars. -/
def readerExit : Station where
  env :=
    { fetchEntryinfo := fun _ _ =>
        { central := some (some ⟨"2026-01-01 08:00:00", "1", "0", "1"⟩) }
      calFeeRAM2G := fun _ _ _ _ => 3 }
  gtStation := { iType := .tiExit }
  tExit := clearedExit {}

theorem newExit_readerExit : NewExit readerExit := by constructor <;> rfl

/-- A card with fifty dollars has been read, and the LCSC is asked for the fee. -/
def deductingExit : Station :=
  history 3 [.lcsc "msgStatus=4,CAN=1111222233334444,cardBalance=5000"] readerExit

theorem stray_deductingExit (eventData : String) :
    Stray deductingExit (.lcsc .LcscReaderStatus eventData) := by
  refine ⟨by decide +kernel, ?_⟩
  rintro ⟨-, hevent⟩
  cases hevent

theorem strayAnswer_held_status :
    (SparesReader deductingExit (.lcsc .LcscReaderStatus "msgStatus=0,readerMode=1") →
      Held deductingExit (after (serveReader 3
        (.lcsc .LcscReaderStatus "msgStatus=0,readerMode=1")) deductingExit)) ∧
    (ReaderEvent.isRead (.lcsc .LcscReaderStatus "msgStatus=0,readerMode=1") = false →
      deductingExit.tExit.sIUNo ≠ "" →
      Held deductingExit (after (serveReader 3
        (.lcsc .LcscReaderStatus "msgStatus=0,readerMode=1")) deductingExit) →
      SparesReader deductingExit (.lcsc .LcscReaderStatus "msgStatus=0,readerMode=1")) := by
  apply strayAnswer_held
  · exact newExit_readerExit
  · exact stray_deductingExit _

/-- The time-out of a status command is taken for the end of the deduction. -/
theorem not_strayAnswer_held :
    NewExit readerExit ∧
      Stray deductingExit (.lcsc .LcscReaderStatus "msgStatus=-100") ∧
      ¬Held deductingExit
        (after (serveReader 3 (.lcsc .LcscReaderStatus "msgStatus=-100")) deductingExit) := by
  refine ⟨newExit_readerExit, stray_deductingExit _, ?_⟩
  rintro ⟨hstatus, -, -⟩
  revert hstatus
  decide +kernel

end LinuxPBS.Operation

import LinuxPBS.Operation.Remembered
import LinuxPBS.Operation.Swap

/-!
# The answers of the CHU to a debit

The CHU reports a debit with the IU and the amount.  `processCHU` drops the report while
`gbBarrierOpened` is set, and while a debit is the last command it takes only one from its
own antenna and for the vehicle at the exit.  Any other report is booked: for this vehicle
with `DebitOK`, which records the amount that is due, and for another one with `UpdateExit`,
which records the amount of the report.

A debit that has failed is not compared with the vehicle at all.
-/

set_option synthInstance.maxSize 100000

namespace LinuxPBS.Operation

open Handler CxxText Common Db

/-! ## Reports -/

/-- The values of a debit-OK message: `tmpStr` of `processCHU`, which can be read. -/
structure DebitReport where
  tmpStr : List String
  length : 9 < tmpStr.length
  vehicle : tmpStr.getD 2 "" ≠ ""
  readable : ∀ i ∈ [1, 3, 5, 7, 8], (stoi (tmpStr.getD i "")).isSome = true

namespace DebitReport

/-- The IU that has been debited. -/
def sIUNo (report : DebitReport) : String := report.tmpStr.getD 2 ""

/-- A number of the message. -/
def number (report : DebitReport) (i : ℕ) : ℤ := (stoi (report.tmpStr.getD i "")).getD 0

/-- The amount that has been debited. -/
def paid (report : DebitReport) : ℚ := report.number 3 / 100

theorem stoi_eq (report : DebitReport) {i : ℕ} (hi : i ∈ [1, 3, 5, 7, 8]) :
    stoi (report.tmpStr.getD i "") = some (report.number i) := by
  obtain ⟨value, hvalue⟩ := Option.isSome_iff_exists.mp (report.readable i hi)
  rw [number, hvalue, Option.getD_some]

/-- A value of the message is there. -/
theorem index_eq (report : DebitReport) {i : ℕ} (hi : i ≤ 9) :
    (index report.tmpStr i : Op String) = pure (report.tmpStr.getD i "") :=
  index_of_lt (lt_of_le_of_lt hi report.length)

end DebitReport

/-- The message is the report of a debit. -/
def Reported103 (eventData : String) (report : DebitReport) : Prop :=
  chuReply eventData = some (103, 12, report.tmpStr)

/-- The call stores an exit of a vehicle with an amount. -/
def Call.books (sIUNo : String) (paid : ℚ) : Call → Bool
  | .insertexittrans row ret | .updateExit row ret =>
      decide (row.sIUNo = sIUNo ∧ row.sPaidAmt = paid ∧ Succeeds ret)
  | _ => false

/-- The exits that are stored for a vehicle with an amount. -/
def booked (sIUNo : String) (paid : ℚ) (s : Station) : ℕ :=
  s.calls.countP (Call.books sIUNo paid)

/-- What the database answers to `insertexittrans`, whatever the exit. -/
def storeAnswer (centraldb localdb : ConnectionAnswers) : DBError :=
  if centraldb.isConnected ≠ -1 ∧ centraldb.connect ≠ 0 then
    if localdb.isConnected ≠ 1 ∧ localdb.connect ≠ 0 then .iLocalFail
    else if localdb.insert.code ≠ 0 then .iLocalFail else .iLocalSuccess
  else if centraldb.insert.code ≠ 0 then .iCentralFail else .iCentralSuccess

/-- The next exit is stored. -/
def Stores (s : Station) : Prop :=
  Succeeds (storeAnswer (s.env.centraldb s.asked) (s.env.localdb (s.asked + 1)))

instance (s : Station) : Decidable (Stores s) := inferInstanceAs (Decidable (Succeeds _))

theorem insertExitTrans_answer (centraldb localdb : ConnectionAnswers) (store : Db.State)
    {data : OperationSharedData} (hdata : store.operation = some data) (exitTrans : TExitTrans) :
    (insertExitTrans centraldb localdb store exitTrans).2.2 = storeAnswer centraldb localdb := by
  unfold insertExitTrans storeAnswer
  simp only [hdata]
  split
  · unfold insertExitLocal
    split
    · rfl
    · split <;> rfl
  · rfl

theorem exitAnswer_eq (s : Station) :
    exitAnswer s = storeAnswer (s.env.centraldb s.asked) (s.env.localdb (s.asked + 1)) :=
  insertExitTrans_answer _ _ _ rfl _

/-! ## The text of `processCHU` -/

section Execution

variable {s : Station} {enableCashcard : Bool → Op Unit} {eventData : String}

/-- What a message says that can be read. -/
theorem chuReply_eq_some {rxcmd iRC : ℤ} {tmpStr : List String}
    (hreply : chuReply eventData = some (rxcmd, iRC, tmpStr)) :
    ¬(parseData '[' ']' '|' eventData).length < 4 ∧
      stoi ((parseData '[' ']' '|' eventData).getD 2 "") = some rxcmd ∧
      split ',' ((parseData '[' ']' '|' eventData).getD 3 "") = tmpStr ∧
      0 < tmpStr.length ∧ stoi (tmpStr.getD 0 "") = some iRC := by
  unfold chuReply at hreply
  dsimp only at hreply
  by_cases hfields : (parseData '[' ']' '|' eventData).length < 4
  · rw [if_pos hfields] at hreply
    cases hreply
  rw [if_neg hfields] at hreply
  obtain ⟨rxcmd', hrxcmd, hrest⟩ := Option.bind_eq_some_iff.mp hreply
  split at hrest
  · cases hrest
  · rename_i hlength
    obtain ⟨iRC', hiRC, hpure⟩ := Option.bind_eq_some_iff.mp hrest
    cases hpure
    exact ⟨hfields, hrxcmd, rfl, Nat.pos_of_ne_zero hlength, hiRC⟩

/-- The answer to a debit is expected, or it is late. -/
theorem after_processCHU_103 {iRC : ℤ} {tmpStr : List String}
    (hreply : chuReply eventData = some (103, iRC, tmpStr)) (hbroken : iRC ≠ 24)
    (hclosed : s.tProcess.gbBarrierOpened = false) :
    after (processCHU enableCashcard eventData) s =
      if s.tProcess.fiLastCHUCmd = .iDebit then
        after (chuDebited enableCashcard iRC tmpStr) { s with tProcess.fiLastCHUCmd := .iInit }
      else if iRC = 12 then after (chuLateDebit tmpStr) s else s := by
  obtain ⟨hfields, hrxcmd, htmpStr, hlength, hiRC⟩ := chuReply_eq_some hreply
  rw [processCHU, after_get_bind, hclosed, if_neg Bool.false_ne_true]
  dsimp only
  rw [if_neg hfields, hrxcmd, orThrow_some, pure_bind, htmpStr, index_of_lt hlength, pure_bind,
    hiRC, orThrow_some, pure_bind, if_neg hbroken, after_get_bind]
  by_cases hexpected : s.tProcess.fiLastCHUCmd = .iDebit
  · rw [if_pos ((chuCode_succ_iff _).mpr hexpected), if_pos hexpected, after_modify_bind,
      if_neg (by decide), if_pos rfl]
  · rw [if_neg (mt (chuCode_succ_iff _).mp hexpected), if_neg hexpected]
    by_cases h12 : iRC = 12
    · rw [if_pos ⟨rfl, h12⟩, if_pos h12]
    · rw [if_neg (fun h => h12 h.2), if_neg h12, after_pure]

end Execution

/-! ## A report for the vehicle at the exit -/

section Own

variable {s : Station} {report : DebitReport} {sIUNo : String} {paid : ℚ} {found : List Call}

/-- What reporting a deduction leaves alone until the exit is closed. -/
@[reducible] def dueView (s : Station) : Env × ℕ × String × ℚ × ℚ × ℚ × ℚ × List Call :=
  (s.env, s.asked, s.tExit.sIUNo, s.tExit.sFee, s.tExit.sRebateAmt, s.tExit.sRedeemAmt,
    s.tExit.sOweAmt, s.calls)

/-- `DebitOK` for the vehicle at the exit, with amounts that can be read, closes the exit. -/
theorem after_debitOK {R : Station → Prop} {sPaidAmt sBal sTopupAmt : String}
    (hpaid : (stof sPaidAmt).isSome = true) (hbal : (stof sBal).isSome = true)
    (htopup : (stof sTopupAmt).isSome = true) (sCardNo : String) (iCardType : ℤ)
    (iDevicetype : DeviceType)
    (hclose : ∀ t, dueView t = dueView { s with calls := .debitOK iDevicetype sPaidAmt :: s.calls } →
      R (after (closeExitOperation .DeductionOK) t)) :
    R (after (debitOK s.tExit.sIUNo sCardNo sPaidAmt sBal iCardType sTopupAmt iDevicetype) s) := by
  have hnonempty {text : String} (htext : (stof text).isSome = true) : text ≠ "" := by
    rintro rfl
    exact absurd htext (by decide)
  obtain ⟨fee, hfee⟩ := feeOf_some hpaid
  obtain ⟨balance, hbalance⟩ := feeOf_some hbal
  obtain ⟨amount, hamount⟩ := feeOf_some htopup
  simp only [debitOK, hnonempty hpaid, hfee, hnonempty htopup, hamount, hnonempty hbal, hbalance,
    pure_bind, ne_eq, not_false_eq_true, if_true, after_call_bind, after_modify_bind,
    after_get_bind, not_true_eq_false, false_and, and_false, if_false]
  exact hclose _ rfl

instance : Leads (Filed (Call.books sIUNo paid) found) (Filed (Call.books sIUNo paid) found) clearme :=
  filed_clearme rfl

instance (iReason : ℤ) : Leads (Filed (Call.books sIUNo paid) found)
    (Filed (Call.books sIUNo paid) found) (call (.openBarrier iReason)) := filed_call rfl

/-- What stores nothing. -/
theorem booked_of_filed {α : Type} {m : Op α}
    (hm : ∀ found, Leads (Filed (Call.books sIUNo paid) found) (Filed (Call.books sIUNo paid) found) m)
    (s : Station) : booked sIUNo paid (after m s) = booked sIUNo paid s := by
  have hfiled := (hm (s.calls.filter (Call.books sIUNo paid))).leads s rfl
  rw [booked, booked, List.countP_eq_length_filter, List.countP_eq_length_filter, hfiled]

/-- What closing an exit by a deduction stores. -/
theorem booked_closeExitOperation (hIU : s.tExit.sIUNo ≠ "") :
    booked sIUNo paid (after (closeExitOperation .DeductionOK) s) = booked sIUNo paid s +
      if s.tExit.sIUNo = sIUNo ∧ outstanding s.tExit = paid ∧ Stores s then 1 else 0 := by
  have hopen : ∀ t, booked sIUNo paid (after (openbarrier 0) t) = booked sIUNo paid t :=
    booked_of_filed fun _ => inferInstance
  have hreleases : TransType.DeductionOK ≠ .UpdateCHUTrans ∧ TransType.DeductionOK ≠ .EZPayParking ∧
      TransType.DeductionOK ≠ .AXSParking := by decide
  let s' : Station := { s with
    calls := .closeExitOperation .DeductionOK s.tExit s.tParas.gfGSTRate :: s.calls
    tExit := closingStatus .DeductionOK s.tExit }
  obtain ⟨⟨row, hrow, hpaid, hcalls⟩, -, -⟩ := saveExit_remembers (s := s') hIU
  have hanswer : Succeeds (exitAnswer s') ↔ Stores s := by rw [exitAnswer_eq]; rfl
  have hsave : booked sIUNo paid (after saveExit s') = booked sIUNo paid s +
      if s.tExit.sIUNo = sIUNo ∧ outstanding s.tExit = paid ∧ Stores s then 1 else 0 := by
    rw [booked, hcalls, List.countP_cons, List.countP_cons_of_neg Bool.false_ne_true]
    simp only [Call.books, hrow, hpaid, hanswer, decide_eq_true_eq]
    rfl
  unfold closeExitOperation
  rw [after_get_bind, after_call_bind, after_modify_bind]
  simp only [if_pos hreleases]
  rcases after_bind saveExit (fun _ => openbarrier 0) s' with hleft | ⟨_, hright⟩
  · rw [hleft, hsave]
  · rw [hright, hopen, hsave]

theorem chuAmount_eq (report : DebitReport) {i : ℕ} (hi : i ∈ [1, 3, 5, 7, 8]) :
    (chuAmount report.tmpStr i : Op String) = pure (setFeeFormat (report.number i / 100)) := by
  have hle : i ≤ 9 := by
    simp only [List.mem_cons, List.not_mem_nil, or_false] at hi
    omega
  rw [chuAmount, report.index_eq hle, pure_bind, report.stoi_eq hi, orThrow_some, pure_bind]

/-- A report for the vehicle at the exit is booked with the amount that is due. -/
theorem booked_chuDebitOK (hown : s.tExit.sIUNo = report.sIUNo) (paid : ℚ) :
    booked report.sIUNo paid (after (chuDebitOK report.tmpStr) s) =
      booked report.sIUNo paid s + if outstanding s.tExit = paid ∧ Stores s then 1 else 0 := by
  have hdebit : ∀ sCardNo iCardType, booked report.sIUNo paid (after (debitOK s.tExit.sIUNo sCardNo
        (setFeeFormat (report.number 3 / 100)) (setFeeFormat (report.number 5 / 100)) iCardType
        (setFeeFormat (report.number 8 / 100)) .CHU) s) =
      booked report.sIUNo paid s + if outstanding s.tExit = paid ∧ Stores s then 1 else 0 := by
    intro sCardNo iCardType
    refine after_debitOK (R := fun t => booked report.sIUNo paid t = _) (stof_setFeeFormat _)
      (stof_setFeeFormat _) (stof_setFeeFormat _) sCardNo iCardType .CHU fun t ht => ?_
    simp only [dueView, Prod.mk.injEq] at ht
    obtain ⟨henv, hasked, hIU, hfee, hrebate, hredeem, howe, hcalls⟩ := ht
    have hdue : outstanding t.tExit = outstanding s.tExit := by
      rw [outstanding, outstanding, redeemedAmt, redeemedAmt, amountDue, amountDue, hfee, hrebate,
        hredeem, howe]
    have hstores : Stores t ↔ Stores s := by rw [Stores, Stores, henv, hasked]
    have hbooked : booked report.sIUNo paid t = booked report.sIUNo paid s := by
      rw [booked, booked, hcalls, List.countP_cons_of_neg Bool.false_ne_true]
    rw [booked_closeExitOperation (hIU ▸ hown ▸ report.vehicle), hbooked, hIU, hdue]
    simp only [hown, true_and, hstores]
  rw [chuDebitOK, chuAmount_eq report (by simp), pure_bind, chuAmount_eq report (by simp),
    pure_bind, report.index_eq (by omega), pure_bind, report.stoi_eq (by simp), orThrow_some,
    pure_bind, chuAmount_eq report (by simp), pure_bind, report.index_eq (by omega), pure_bind,
    report.index_eq (by omega), pure_bind]
  have hIU : report.tmpStr.getD 2 "" = s.tExit.sIUNo := hown.symm
  rw [hIU]
  exact hdebit _ _

end Own

/-! ## A report for another vehicle -/

section Foreign

variable {s : Station} {report : DebitReport} {sIUNo : String} {paid : ℚ} {found : List Call}

/-- Whole cents are not rounded. -/
theorem gfeeFormat_cents (cents : ℤ) : gfeeFormat (cents / 100) = cents / 100 := by
  unfold gfeeFormat
  rw [div_mul_cancel₀ _ (by norm_num : (100 : ℚ) ≠ 0), roundHalfAway_intCast]

/-- What `UpdateExit` stores. -/
theorem booked_updateExit (hIU : s.tExit1.sIUNo ≠ "") (sIUNo : String) (paid : ℚ) :
    booked sIUNo paid (after updateExit s) = booked sIUNo paid s +
      if s.tExit1.sIUNo = sIUNo ∧ gfeeFormat s.tExit1.sPaidAmt = paid ∧ Stores s then 1 else 0 := by
  let store : Db.State := { s.db with operation := some (sharedData s) }
  let exitTrans : TExitTrans := { s.tExit1.toTExitTrans with
    sGSTAmt := s.tExit1.sPaidAmt * s.tParas.gfGSTRate / (1 + s.tParas.gfGSTRate) }
  obtain ⟨hrow, -⟩ := insertExitTrans_vehicle (s.env.centraldb s.asked)
    (s.env.localdb (s.asked + 1)) store rfl exitTrans
  obtain ⟨hpaid, -⟩ := insertExitTrans_amounts (s.env.centraldb s.asked)
    (s.env.localdb (s.asked + 1)) store rfl exitTrans
  have hanswer := insertExitTrans_answer (s.env.centraldb s.asked)
    (s.env.localdb (s.asked + 1)) store rfl exitTrans
  have hcalls : (after updateExit s).calls = .updateExit
      (insertExitTrans (s.env.centraldb s.asked) (s.env.localdb (s.asked + 1)) store exitTrans).2.1
      (insertExitTrans (s.env.centraldb s.asked) (s.env.localdb (s.asked + 1)) store exitTrans).2.2 ::
        s.calls := by
    rw [updateExit, after_get_bind, if_neg hIU]
    rfl
  rw [booked, hcalls, List.countP_cons]
  simp only [Call.books, hrow, hpaid, hanswer, decide_eq_true_eq]
  rfl

/-- What a report for another vehicle writes to `tExit1`. -/
def takeReport (report : DebitReport) (tExit1 : TExit) : TExit :=
  { tExit1 with
    sIUNo := report.sIUNo
    sCardNo := report.tmpStr.getD 4 ""
    sPaidAmt := report.paid
    sFee := report.paid
    iCardType := report.number 7
    sTopupAmt := report.number 8 / 100
    sExitTime := stringConvertDBTime (report.tmpStr.getD 9 "")
    sEntryTime := stringConvertDBTime (report.tmpStr.getD 9 "") }

theorem after_chuLateDebit (hforeign : s.tExit.sIUNo ≠ report.sIUNo) :
    after (chuLateDebit report.tmpStr) s =
      after (do
        updateExit
        modify fun s => { s with tProcess.fiLastCHUCmd := .iInit }
        chuInq 2) { s with tExit1 := takeReport report s.tExit1 } := by
  have hother : ¬s.tExit.sIUNo = report.tmpStr.getD 2 "" := hforeign
  unfold chuLateDebit
  simp only [report.index_eq (show 9 ≤ 9 by omega), report.index_eq (show 2 ≤ 9 by omega),
    report.index_eq (show 3 ≤ 9 by omega), report.index_eq (show 4 ≤ 9 by omega),
    report.index_eq (show 7 ≤ 9 by omega), report.index_eq (show 8 ≤ 9 by omega), pure_bind,
    report.stoi_eq (show 3 ∈ [1, 3, 5, 7, 8] by simp),
    report.stoi_eq (show 7 ∈ [1, 3, 5, 7, 8] by simp),
    report.stoi_eq (show 8 ∈ [1, 3, 5, 7, 8] by simp), orThrow_some]
  rw [after_get_bind, if_neg hother]
  simp only [after_modify_bind]
  rfl

theorem after_chuLateDebit_own (hown : s.tExit.sIUNo = report.sIUNo) :
    after (chuLateDebit report.tmpStr) s = after (chuDebitOK report.tmpStr) s := by
  have hsame : s.tExit.sIUNo = report.tmpStr.getD 2 "" := hown
  unfold chuLateDebit
  simp only [report.index_eq (show 9 ≤ 9 by omega), report.index_eq (show 2 ≤ 9 by omega),
    pure_bind]
  rw [after_get_bind, if_pos hsame]

/-- A report for another vehicle is booked with its own amount. -/
theorem booked_chuLateDebit (hforeign : s.tExit.sIUNo ≠ report.sIUNo) :
    booked report.sIUNo report.paid (after (chuLateDebit report.tmpStr) s) =
      booked report.sIUNo report.paid s + if Stores s then 1 else 0 := by
  have hrest : ∀ t, booked report.sIUNo report.paid (after (do
      modify fun s => { s with tProcess.fiLastCHUCmd := .iInit }
      chuInq 2 : Op Unit) t) = booked report.sIUNo report.paid t :=
    booked_of_filed fun _ => inferInstance
  have hupdated : booked report.sIUNo report.paid
        (after updateExit { s with tExit1 := takeReport report s.tExit1 }) =
      booked report.sIUNo report.paid s + if Stores s then 1 else 0 := by
    have hbooked := booked_updateExit (s := { s with tExit1 := takeReport report s.tExit1 })
      report.vehicle report.sIUNo report.paid
    have hcents : gfeeFormat report.paid = report.paid := gfeeFormat_cents _
    simp only [takeReport, hcents, true_and] at hbooked
    exact hbooked
  rw [after_chuLateDebit hforeign]
  rcases after_bind updateExit _ { s with tExit1 := takeReport report s.tExit1 } with
    hleft | ⟨_, hright⟩
  · rw [hleft, hupdated]
  · rw [hright, hrest, hupdated]

end Foreign

/-! ## Which reports are booked -/

/-- The report is taken: the barrier has not been opened, the exit is stored, a debit that is
awaited is one of this antenna and of the vehicle at the exit, and what that vehicle has to pay is
the amount of the report. -/
structure Taken (s : Station) (report : DebitReport) : Prop where
  closed : s.tProcess.gbBarrierOpened = false
  stores : Stores s
  awaited : s.tProcess.fiLastCHUCmd = .iDebit →
    report.number 1 = s.gtStation.iAntID ∧ s.tExit.sIUNo = report.sIUNo
  due : s.tExit.sIUNo = report.sIUNo → outstanding s.tExit = report.paid

section Booked

variable {s : Station} {report : DebitReport} {eventData : String}

/-- The text of `processCHU` for a debit that is awaited. -/
theorem after_chuDebited (enableCashcard : Bool → Op Unit) :
    after (chuDebited enableCashcard 12 report.tmpStr) s =
      if report.number 1 = s.gtStation.iAntID ∧ s.tExit.sIUNo = report.sIUNo then
        after (chuDebitOK report.tmpStr) s
      else after (do
        modify fun s => { s with tProcess.fiLastCHUCmd := .iInit }
        chuInq 2) s := by
  have hIU : report.tmpStr.getD 2 "" = report.sIUNo := rfl
  unfold chuDebited
  simp only [if_true, report.index_eq (show 1 ≤ 9 by omega), report.index_eq (show 2 ≤ 9 by omega),
    report.index_eq (show 9 ≤ 9 by omega), pure_bind,
    report.stoi_eq (show 1 ∈ [1, 3, 5, 7, 8] by simp), orThrow_some, hIU]
  rw [after_get_bind]
  by_cases hantenna : report.number 1 = s.gtStation.iAntID
  · rw [if_neg (not_not.mpr hantenna)]
    by_cases hvehicle : s.tExit.sIUNo = report.sIUNo
    · rw [if_neg (not_not.mpr hvehicle), if_pos ⟨hantenna, hvehicle⟩]
    · rw [if_pos hvehicle, if_neg (fun h => hvehicle h.2)]
  · rw [if_pos hantenna, if_neg (fun h => hantenna h.1)]

/-- `processCHU` books a report exactly if it is taken. -/
theorem booked_processCHU_iff (hreport : Reported103 eventData report)
    (enableCashcard : Bool → Op Unit) :
    booked report.sIUNo report.paid (after (processCHU enableCashcard eventData) s) =
        booked report.sIUNo report.paid s + 1 ↔ Taken s report := by
  have hdrop : ∀ t, booked report.sIUNo report.paid (after (do
      modify fun s => { s with tProcess.fiLastCHUCmd := .iInit }
      chuInq 2 : Op Unit) t) = booked report.sIUNo report.paid t :=
    booked_of_filed fun _ => inferInstance
  have hone (c : Prop) [Decidable c] (n : ℕ) : n + (if c then 1 else 0) = n + 1 ↔ c := by
    split_ifs with hc <;> simp [hc]
  by_cases hopened : s.tProcess.gbBarrierOpened = true
  · rw [processCHU, after_get_bind, if_pos hopened, after_pure]
    exact iff_of_false (by omega) fun h => Bool.false_ne_true (h.closed.symm.trans hopened)
  have hclosed : s.tProcess.gbBarrierOpened = false := Bool.not_eq_true _ ▸ hopened
  rw [after_processCHU_103 hreport (by decide) hclosed]
  by_cases hawaited : s.tProcess.fiLastCHUCmd = .iDebit
  · rw [if_pos hawaited, after_chuDebited]
    by_cases hmine : report.number 1 = s.gtStation.iAntID ∧ s.tExit.sIUNo = report.sIUNo
    · have hbooked := booked_chuDebitOK
        (s := { s with tProcess.fiLastCHUCmd := .iInit }) hmine.2 report.paid
      rw [if_pos hmine, hbooked]
      refine (hone _ _).trans ⟨fun h => ⟨hclosed, h.2, fun _ => hmine, fun _ => h.1⟩, ?_⟩
      exact fun h => ⟨h.due hmine.2, h.stores⟩
    · rw [if_neg hmine, hdrop]
      exact iff_of_false (Nat.ne_of_lt (Nat.lt_succ_self _)) fun h => hmine (h.awaited hawaited)
  · rw [if_neg hawaited, if_pos rfl]
    by_cases hown : s.tExit.sIUNo = report.sIUNo
    · rw [after_chuLateDebit_own hown, booked_chuDebitOK hown, hone]
      exact ⟨fun h => ⟨hclosed, h.2, fun h' => absurd h' hawaited, fun _ => h.1⟩,
        fun h => ⟨h.due hown, h.stores⟩⟩
    · rw [booked_chuLateDebit hown, hone]
      exact ⟨fun h => ⟨hclosed, h, fun h' => absurd h' hawaited, fun h' => absurd h' hown⟩,
        fun h => h.stores⟩

/-- The report is served. -/
theorem booked_serve_iff (hreport : Reported103 eventData report) (depth : ℕ) :
    booked report.sIUNo report.paid (after (serve depth (.chu eventData)) s) =
        booked report.sIUNo report.paid s + 1 ↔ Taken s report := by
  have hcalled := booked_processCHU_iff hreport (enableCashcardAt depth)
    (s := { s with calls := .handleEvent (.chu eventData) :: s.calls })
  rw [booked, booked, List.countP_cons_of_neg Bool.false_ne_true] at hcalled
  exact hcalled.trans ⟨fun h => ⟨h.closed, h.stores, h.awaited, h.due⟩,
    fun h => ⟨h.closed, h.stores, h.awaited, h.due⟩⟩

end Booked

/-! ## An answer for another vehicle -/

/-- The answer changes nothing of the vehicle at the exit, and the barrier stays closed. -/
structure LeftAlone (s s' : Station) : Prop where
  tExit : s'.tExit = s.tExit
  barrier : s'.calls.countP isOpening = s.calls.countP isOpening

/-- The answer to a debit of another vehicle; it is long enough to have an error code. -/
structure Foreign (s : Station) (eventData : String) (iRC : ℤ) (tmpStr : List String) : Prop where
  reply : chuReply eventData = some (103, iRC, tmpStr)
  answer : iRC = 12 ∨ iRC = 13
  length : 6 < tmpStr.length
  vehicle : s.tExit.sIUNo ≠ tmpStr.getD 2 ""

/-- The answer is not taken for a failed debit of the vehicle at the exit. -/
def NotTaken (s : Station) (iRC : ℤ) : Prop :=
  s.tProcess.gbBarrierOpened = true ∨ s.tProcess.fiLastCHUCmd ≠ .iDebit ∨ iRC = 12

/-- What an answer for another vehicle has to leave alone. -/
@[reducible] def aloneView (s : Station) : TExit × ℕ := (s.tExit, s.calls.countP isOpening)

instance (sData : String) : Frames aloneView (sendMsg2CHU .iEntryInq sData) := by
  unfold sendMsg2CHU
  simp only [reduceCtorEq, if_false]
  infer_instance

instance (delay : ℕ) : Frames aloneView (chuInq delay) := by
  unfold chuInq
  infer_instance

instance : Frames aloneView updateExit where
  frames s := by
    rw [updateExit, after_get_bind, after_ite]
    split <;> rfl

section Alone

variable {s : Station} {eventData : String} {iRC : ℤ} {tmpStr : List String}

/-- A debit that is awaited and reported for another vehicle. -/
theorem alone_chuDebited (enableCashcard : Bool → Op Unit) (hlength : 6 < tmpStr.length)
    (hvehicle : s.tExit.sIUNo ≠ tmpStr.getD 2 "") :
    aloneView (after (chuDebited enableCashcard 12 tmpStr) s) = aloneView s := by
  rw [chuDebited, if_pos rfl, index_of_lt (show 1 < tmpStr.length by omega), pure_bind,
    index_of_lt (show 2 < tmpStr.length by omega)]
  cases CxxText.stoi (tmpStr.getD 1 "") with
  | none => rw [orThrow_none, throw_bind, after_throw]
  | some antID =>
      rw [orThrow_some, pure_bind, after_get_bind, pure_bind, after_ite, if_pos hvehicle]
      split
      · exact Frames.after_eq aloneView (modify _ >>= fun _ => chuInq 2) s
      · exact Frames.after_eq aloneView (modify _ >>= fun _ => chuInq 2) s

/-- A debit of another vehicle that is not awaited. -/
theorem alone_chuLateDebit (hvehicle : s.tExit.sIUNo ≠ tmpStr.getD 2 "") :
    aloneView (after (chuLateDebit tmpStr) s) = aloneView s := by
  rw [chuLateDebit]
  by_cases hshort : tmpStr.length ≤ 9
  · rw [index_of_le hshort, throw_bind, after_throw]
  rw [not_le] at hshort
  rw [index_of_lt hshort, pure_bind, index_of_lt (show 2 < tmpStr.length by omega)]
  dsimp only
  rw [after_get_bind, pure_bind, if_neg hvehicle, pure_bind]
  exact Frames.after_eq aloneView _ s

/-- An answer that is not taken leaves the vehicle alone. -/
theorem alone_processCHU (hforeign : Foreign s eventData iRC tmpStr) (hnot : NotTaken s iRC)
    (enableCashcard : Bool → Op Unit) :
    aloneView (after (processCHU enableCashcard eventData) s) = aloneView s := by
  by_cases hopened : s.tProcess.gbBarrierOpened = true
  · rw [processCHU, after_get_bind, if_pos hopened, after_pure]
  have hclosed : s.tProcess.gbBarrierOpened = false := Bool.not_eq_true _ ▸ hopened
  have hbroken : iRC ≠ 24 := by
    rcases hforeign.answer with rfl | rfl <;> decide
  rw [after_processCHU_103 hforeign.reply hbroken hclosed]
  by_cases hawaited : s.tProcess.fiLastCHUCmd = .iDebit
  · obtain rfl : iRC = 12 := (hnot.resolve_left hopened).resolve_left (not_not.mpr hawaited)
    rw [if_pos hawaited]
    exact alone_chuDebited enableCashcard hforeign.length hforeign.vehicle
  · rw [if_neg hawaited]
    by_cases h12 : iRC = 12
    · rw [if_pos h12]
      exact alone_chuLateDebit hforeign.vehicle
    · rw [if_neg h12]

/-- The answer is served. -/
theorem leftAlone_of_notTaken (hforeign : Foreign s eventData iRC tmpStr) (hnot : NotTaken s iRC)
    (depth : ℕ) : LeftAlone s (after (serve depth (.chu eventData)) s) := by
  have halone := alone_processCHU (s := { s with calls := .handleEvent (.chu eventData) :: s.calls })
    ⟨hforeign.reply, hforeign.answer, hforeign.length, hforeign.vehicle⟩ hnot (enableCashcardAt depth)
  simp only [aloneView, Prod.mk.injEq] at halone
  exact ⟨halone.1, halone.2.trans (List.countP_cons_of_neg Bool.false_ne_true)⟩

instance {α : Type} (m : Op α) [hm : Frames (fun s => s.tExit.giDeductionStatus) m] :
    Leads Ended Ended m where
  leads s hs := by
    have hstatus : (after m s).tExit.giDeductionStatus = s.tExit.giDeductionStatus := hm.frames s
    rwa [Ended, hstatus]

instance : Debits Ended Ended where
  debit sIUNO sCardNo sPaidAmt sBal iCardType sTopupAmt iDevicetype := by
    have hdeducted : Leads Ended Ended (setStatus .DeductionSuccessed) := ⟨fun _ _ => nofun⟩
    unfold debitOK
    dsimp only
    infer_instance

instance : Debits EndedHere Ended where
  debit sIUNO sCardNo sPaidAmt sBal iCardType sTopupAmt iDevicetype :=
    (Debits.debit (S := Ended) (Q := Ended) sIUNO sCardNo sPaidAmt sBal iCardType sTopupAmt
      iDevicetype).weaken (fun _ hs => hs.ended) fun _ hs => hs

instance : Entails EndedHere Ended := ⟨fun _ hs => hs.ended⟩

instance (depth : ℕ) (bEnable : Bool) : Leads EndedHere Ended (enableCashcardAt depth bEnable) :=
  Leads.weaken (P := EndedHere) (Q := EndedHere) inferInstance (fun _ hs => hs) fun _ hs => hs.ended

/-- A failed debit that is awaited ends the deduction of the vehicle at the exit. -/
theorem ended_chuDebitFail (hexit : s.gtStation.iType = .tiExit) (hknown : s.tExit.sIUNo ≠ "")
    (hlength : 6 < tmpStr.length) (depth : ℕ) :
    Ended (after (chuDebitFail (enableCashcardAt depth) tmpStr) s) := by
  have hcode (l4 r4 : String) :
      Leads EndedHere Ended (chuErrorCode (enableCashcardAt depth) tmpStr l4 r4) := by
    have hforget : Leads EndedHere EndedHere (modify fun s => { s with
        tExit.giDeductionStatus := .InsufficientBalance, tProcess.gsLastCardNo := "" } : Op Unit) :=
      ⟨fun _ hs => ⟨nofun, hs.iType, hs.known⟩⟩
    unfold chuErrorCode
    infer_instance
  unfold chuDebitFail sendMsg2Server
  rw [index_of_lt hlength, pure_bind, index_of_lt (show 2 < tmpStr.length by omega),
    index_of_lt (show 4 < tmpStr.length by omega), after_ite]
  split
  · rw [after_modify_bind]
    refine EndedHere.ended (Leads.leads (P := EndedHere) _ ?_)
    exact ⟨nofun, hexit, hknown⟩
  · rw [after_modify_bind, pure_bind, pure_bind, after_send_bind, after_modify_bind]
    refine Leads.leads (P := EndedHere) (Q := Ended) _ ?_
    exact ⟨nofun, hexit, hknown⟩

/-- An answer that is taken for a failed debit of the vehicle at the exit ends its deduction. -/
theorem ended_processCHU (hexit : s.gtStation.iType = .tiExit) (hknown : s.tExit.sIUNo ≠ "")
    (hforeign : Foreign s eventData iRC tmpStr) (htaken : ¬NotTaken s iRC) (depth : ℕ) :
    Ended (after (processCHU (enableCashcardAt depth) eventData) s) := by
  simp only [NotTaken, not_or, Bool.not_eq_true, not_not] at htaken
  obtain ⟨hclosed, hawaited, h12⟩ := htaken
  obtain rfl : iRC = 13 := hforeign.answer.resolve_left h12
  rw [after_processCHU_103 hforeign.reply (by decide) hclosed, if_pos hawaited, chuDebited,
    if_neg (by decide), if_pos rfl]
  exact ended_chuDebitFail (s := { s with tProcess.fiLastCHUCmd := .iInit }) hexit hknown
    hforeign.length depth

theorem ended_serve (hexit : s.gtStation.iType = .tiExit) (hknown : s.tExit.sIUNo ≠ "")
    (hforeign : Foreign s eventData iRC tmpStr) (htaken : ¬NotTaken s iRC) (depth : ℕ) :
    Ended (after (serve depth (.chu eventData)) s) :=
  ended_processCHU (s := { s with calls := .handleEvent (.chu eventData) :: s.calls }) hexit hknown
    ⟨hforeign.reply, hforeign.answer, hforeign.length, hforeign.vehicle⟩ htaken depth

end Alone

/-! ## After any run -/

/-- After a run of any events, the report of a debit is booked exactly if it is taken.  An answer
for another vehicle leaves the one at the exit alone if it is not taken for a failed debit; while a
deduction is under way for a vehicle that is known, this is also necessary. -/
theorem chuAnswer_booked_iff (depth : ℕ) (events : List Event) {s : Station} (hs : NewExit s)
    (eventData : String) :
    (∀ report, Reported103 eventData report →
      (booked report.sIUNo report.paid
            (after (serve depth (.chu eventData)) (history depth events s)) =
          booked report.sIUNo report.paid (history depth events s) + 1 ↔
        Taken (history depth events s) report)) ∧
    ∀ iRC tmpStr, Foreign (history depth events s) eventData iRC tmpStr →
      (NotTaken (history depth events s) iRC →
        LeftAlone (history depth events s)
          (after (serve depth (.chu eventData)) (history depth events s))) ∧
      ((history depth events s).tExit.giDeductionStatus = .Doingdeduction →
        (history depth events s).tExit.sIUNo ≠ "" →
        LeftAlone (history depth events s)
          (after (serve depth (.chu eventData)) (history depth events s)) →
        NotTaken (history depth events s) iRC) := by
  have hbooks : Books s := ⟨hs.iType, hs.noEntry, by rw [hs.noCalls]; trivial⟩
  have hexit := (history_records hbooks depth events).iType
  generalize history depth events s = t at hexit ⊢
  refine ⟨fun report hreport => booked_serve_iff hreport depth, fun iRC tmpStr hforeign => ⟨?_, ?_⟩⟩
  · exact fun hnot => leftAlone_of_notTaken hforeign hnot depth
  · intro hdoing hknown halone
    by_contra htaken
    exact ended_serve hexit hknown hforeign htaken depth (halone.tExit ▸ hdoing)

/-! ## A report that comes after the barrier was opened -/

/-- Three dollars have been debited from the IU 1234567890. -/
def lateData : String :=
  "[PBS|1|103|12,0,1234567890,300,1111222233334444,700,0,1,0,20260101120000|]"

/-- The values of the message. -/
def lateReport : DebitReport where
  tmpStr := ["12", "0", "1234567890", "300", "1111222233334444", "700", "0", "1", "0",
    "20260101120000"]
  length := by decide
  vehicle := by decide
  readable := by decide +kernel

theorem reported_lateData : Reported103 lateData lateReport := by
  unfold Reported103
  decide +kernel

/-- An exit that waits for no debit books the report. -/
theorem chuAnswer_booked_iff_late :
    booked lateReport.sIUNo lateReport.paid
        (after (serve 3 (.chu lateData)) (history 3 [] emptyExit)) =
      booked lateReport.sIUNo lateReport.paid (history 3 [] emptyExit) + 1 := by
  have hbooked := (chuAnswer_booked_iff 3 [] newExit_emptyExit lateData).1 lateReport
    reported_lateData
  refine hbooked.mpr ⟨rfl, by decide, fun h => ?_, fun h => ?_⟩
  · exact absurd h (by decide)
  · exact absurd h (by decide +kernel)

/-- The barrier has been opened by hand, and the report is dropped. -/
theorem not_chuAnswer_booked :
    Reported103 lateData lateReport ∧
      booked lateReport.sIUNo lateReport.paid
          (history 3 [.pms .OpenBarrier "", .chu lateData] emptyExit) = 0 :=
  ⟨reported_lateData, by decide +kernel⟩

end LinuxPBS.Operation

import LinuxPBS.Db.EepPayments
import LinuxPBS.Operation.Plates
import LinuxPBS.Operation.ChuAnswer

/-!
# EEP payments that come later

The run of `Db/EepPayments.lean` at a station.  `processEEPTransData` takes the results 1, 2
and 8 alike: while the OBU is on the loop it closes the exit with what the message says,
else it calls `UpdateEEPExitTrans`.  So a payment for an exit that was closed with result 8
is settled in the wrong way while the vehicle is still there, or the same OBU is there
again: the exit at hand is saved once more.

`payments_settled` is about the runs in which no payment comes so, every payment finds its
record, and no upload takes a record twice: the tables hold each exit once, as the payments
settle it.
-/

set_option synthInstance.maxSize 10000

namespace LinuxPBS.Operation

open Handler Db CxxText Common

/-! ## Closing an exit by a deduction -/

/-- What a message about a deduction leaves in `tExit`, with the tables. -/
@[reducible] def deductionView (s : Station) : Db.State × String × String × ℤ :=
  (s.db, s.tExit.sIUNo, s.tExit.sDSerialNo, s.tExit.iEEPPaymentResult)

/-- The tables. -/
@[reducible] def dbView (s : Station) : Db.State := s.db

instance (delay : ℕ) : Frames dbView (eepInq delay) := by
  unfold eepInq
  infer_instance

instance : Frames dbView clearme := by
  have hcall : Frames dbView (call .clearme) := ⟨fun _ => rfl⟩
  unfold clearme
  infer_instance

instance (sIUNo : String) : Frames dbView (sendMsg2OBU sIUNo) := by
  unfold sendMsg2OBU
  infer_instance

instance (iReason : ℤ) : Frames dbView (endEEPprocess iReason) := by
  unfold endEEPprocess
  dsimp only
  infer_instance

instance (iReason : ℤ) : Frames dbView (openbarrier iReason) := by
  have hcall : Frames dbView (call (.openBarrier iReason)) := ⟨fun _ => rfl⟩
  unfold openbarrier
  infer_instance

/-- `DebitOK` of the EEP, with amounts that can be read, closes the exit. -/
theorem after_debitOK_eep {R : Station → Prop} {sPaidAmt sBal sTopupAmt : String} {s : Station}
    (hpaid : (stof sPaidAmt).isSome = true) (hbal : (stof sBal).isSome = true)
    (htopup : (stof sTopupAmt).isSome = true) (sCardNo : String) (iCardType : ℤ)
    (hclose : ∀ t, deductionView t = deductionView s →
      R (after (closeExitOperation .DeductionOK) t)) :
    R (after (debitOK s.tExit.sIUNo sCardNo sPaidAmt sBal iCardType sTopupAmt .EEP) s) := by
  have hnonempty {text : String} (htext : (stof text).isSome = true) : text ≠ "" := by
    rintro rfl
    exact absurd htext (by decide)
  obtain ⟨fee, hfee⟩ := feeOf_some hpaid
  obtain ⟨balance, hbalance⟩ := feeOf_some hbal
  obtain ⟨amount, hamount⟩ := feeOf_some htopup
  simp only [debitOK, hnonempty hpaid, hfee, hnonempty htopup, hamount, hnonempty hbal, hbalance,
    pure_bind, ne_eq, not_false_eq_true, if_true, after_call_bind, after_modify_bind,
    after_get_bind, not_true_eq_false, false_and, and_false, if_false]
  exact hclose _ rfl

/-- `SaveExit` saves at most one exit. -/
theorem saveExit_savesOne (s : Station) :
    SavesOne (DeductionOf s.tExit.sIUNo s.tExit.sDSerialNo s.tExit.iEEPPaymentResult) s.db
      (after saveExit s).db := by
  by_cases hIU : s.tExit.sIUNo = ""
  · unfold saveExit
    rw [after_get_bind, if_pos hIU]
    exact Or.inl ⟨rfl, rfl⟩
  · have hdb : (after saveExit s).db = _ := congrArg (·.2.2.2.2.2.2.2) (after_saveExit_plates hIU)
    rw [hdb]
    exact insertExitTrans_savesOne _ _ _ _

/-- `UpdateExit` saves at most one exit. -/
theorem updateExit_savesOne (s : Station) :
    SavesOne (DeductionOf s.tExit1.sIUNo s.tExit1.sDSerialNo s.tExit1.iEEPPaymentResult) s.db
      (after updateExit s).db := by
  by_cases hIU : s.tExit1.sIUNo = ""
  · unfold updateExit
    rw [after_get_bind, if_pos hIU]
    exact Or.inl ⟨rfl, rfl⟩
  · have hdb : (after updateExit s).db = _ :=
      congrArg (·.2.2.2.2.2.2.2) (after_updateExit_plates hIU)
    rw [hdb]
    exact insertExitTrans_savesOne _ _ _ _

/-- Closing an exit saves it and nothing else. -/
theorem closeExitOperation_savesOne (s : Station) :
    SavesOne (DeductionOf s.tExit.sIUNo s.tExit.sDSerialNo s.tExit.iEEPPaymentResult) s.db
      (after (closeExitOperation .DeductionOK) s).db := by
  have hsave := saveExit_savesOne { s with
    calls := .closeExitOperation .DeductionOK s.tExit s.tParas.gfGSTRate :: s.calls
    tExit := closingStatus .DeductionOK s.tExit }
  have hreleases : TransType.DeductionOK ≠ .UpdateCHUTrans ∧
      TransType.DeductionOK ≠ .EZPayParking ∧ TransType.DeductionOK ≠ .AXSParking := by decide
  unfold closeExitOperation
  rw [after_get_bind, after_call_bind, after_modify_bind]
  simp only [if_pos hreleases]
  rcases after_bind saveExit (fun _ => openbarrier 0) _ with hleft | ⟨_, hright⟩
  · rw [hleft]
    exact hsave
  · have hopen (t : Station) : (after (openbarrier 0) t).db = t.db :=
      Frames.after_eq dbView (openbarrier 0) t
    rw [hright, hopen]
    exact hsave

/-- A deduction that is reported closes the exit. -/
theorem eepDeducted_savesOne (s : Station) (transData : TransactionData) :
    SavesOne (DeductionOf s.tExit.sIUNo (toString transData.deductCommandSerialNum)
      transData.resultDeduction) s.db (after (eepDeducted transData) s).db := by
  let marked := DeductionOf s.tExit.sIUNo (toString transData.deductCommandSerialNum)
    transData.resultDeduction
  have hcloses (t : Station) (hview : deductionView t = (s.db, s.tExit.sIUNo,
      toString transData.deductCommandSerialNum, (transData.resultDeduction : ℤ))) :
      SavesOne marked s.db (after (closeExitOperation .DeductionOK) t).db := by
    simp only [Prod.mk.injEq] at hview
    obtain ⟨hdb, hIU, hserial, hresult⟩ := hview
    have hone := closeExitOperation_savesOne t
    rwa [hdb, hIU, hserial, hresult] at hone
  have hdebit (t : Station) (balance : ℚ) (hview : deductionView t = (s.db, s.tExit.sIUNo,
      toString transData.deductCommandSerialNum, (transData.resultDeduction : ℤ))) :
      SavesOne marked s.db (after (debitOK t.tExit.sIUNo t.tExit.sCardNo
        (setFeeFormat t.tExit.sPaidAmt) (setFeeFormat balance) 1
          (setFeeFormat t.tExit.sTopupAmt) .EEP) t).db :=
    after_debitOK_eep (R := fun t => SavesOne marked s.db t.db) (stof_setFeeFormat _)
      (stof_setFeeFormat _) (stof_setFeeFormat _) _ _ fun u hu => hcloses u (hu.trans hview)
  unfold eepDeducted
  rw [after_modify_bind, after_get_bind]
  exact hdebit _ _ rfl

/-- The message is about a deduction that was made, or will be. -/
def Deducts (transData : TransactionData) : Prop :=
  transData.resultDeduction = 1 ∨ transData.resultDeduction = 2 ∨ transData.resultDeduction = 8

instance (transData : TransactionData) : Decidable (Deducts transData) :=
  inferInstanceAs (Decidable (_ ∨ _))

/-- The OBU is that of the exit at hand, and on the loop. -/
def ObuPresent (s : Station) (transData : TransactionData) : Prop :=
  decimalIntToHexString transData.obuLabel 5 = s.tExit.sIUNo ∧ s.env.gbLoopApresent s.asked = true

instance (s : Station) (transData : TransactionData) : Decidable (ObuPresent s transData) :=
  inferInstanceAs (Decidable (_ ∧ _))

variable {enableCashcard : Bool → Op Unit}

/-- A message about the OBU at hand saves its exit, at most once. -/
theorem processEEPTransData_savesOne {s : Station} {transData : TransactionData}
    (hpays : Deducts transData) (hpresent : ObuPresent s transData) :
    SavesOne (DeductionOf (decimalIntToHexString transData.obuLabel 5)
      (toString transData.deductCommandSerialNum) transData.resultDeduction) s.db
        (after (processEEPTransData enableCashcard transData) s).db := by
  rw [hpresent.1]
  unfold Deducts at hpays
  unfold processEEPTransData eepSuccess
  rw [if_pos hpays, after_get_bind, if_pos hpresent.1, after_ask_bind, if_pos hpresent.2]
  exact eepDeducted_savesOne _ transData

/-- A message about another OBU, or one that has left, closes nothing. -/
theorem processEEPTransData_of_absent {s : Station} {transData : TransactionData}
    (hpays : Deducts transData) (habsent : ¬ObuPresent s transData) :
    (after (processEEPTransData enableCashcard transData) s).db = s.db := by
  unfold Deducts at hpays
  unfold processEEPTransData eepSuccess
  rw [if_pos hpays, after_get_bind]
  split
  · rename_i hsame
    rw [after_ask_bind, if_neg fun hloop => habsent ⟨hsame, hloop⟩]
    rfl
  · rfl

/-! ## The runs -/

/-- A station with the table into which the server moves its exits; as history, the records
of all exits, with the payments that came for them, the latest first. -/
structure PaymentRun where
  station : Station
  exitMain : List (ExitColumn → SqlValue)
  ledger : List (ExitColumn → SqlValue)

/-- What happens to the exits.  `work` stands for everything else the station does, which
may save exits. -/
inductive PaymentEvent
  | transData (transData : { transData : TransactionData // Deducts transData })
      (outcomes : PaymentAnswers)
  | saveExit
  | updateExit
  | upload (answers : MoveAnswers)
  | transfer
  | work (other : { f : Station → Station // ∀ s, ExitsGrow s.db (f s).db })

/-- What the message says of the payment. -/
def paymentOf (transData : TransactionData) : EepPayment where
  obu := decimalIntToHexString transData.obuLabel 5
  dSerialNo := toString transData.deductCommandSerialNum
  cardNo := transData.can
  fee := (transData.paymentFee : ℚ) / 100
  topupAmt := (transData.autoLoadAmount : ℚ) / 100
  transRoute := transData.transactionRoute
  result := transData.resultDeduction

namespace PaymentRun

/-- The tables. -/
def tables (run : PaymentRun) : ExitTables :=
  ⟨run.station.db.exitTransTmp, run.exitMain, run.station.db.exitTrans⟩

/-- What the statements need to know of the station. -/
def setting (databases : PlateDatabases) (run : PaymentRun) : PaymentSetting :=
  ⟨databases.centralExitTypes, run.station.tParas.gfGSTRate, run.station.gtStation.iSID⟩

/-- The station does something that saves exits at most. -/
def save (databases : PlateDatabases) (station : Station) (run : PaymentRun) : PaymentRun :=
  { run with
    station := station
    ledger := newRecords databases.exitTypes run.station.db station.db ++ run.ledger }

/-- `UpdateEEPExitTrans`, with the flag it sets. -/
def updateEEPExitTrans (databases : PlateDatabases) (outcomes : PaymentAnswers)
    (payment : EepPayment) (run : PaymentRun) : PaymentRun :=
  let (tables, ret) := payment.updateEEPExitTrans (run.setting databases) outcomes run.tables
  { run with
    station.db.exitTransTmp := tables.tmp
    station.db.remoteDbErrFlag := if ret ≠ 0 then 1 else 0
    exitMain := tables.main }

/-- `processEEPTransData`.  The payment is due for the latest record of the OBU and the
serial number, if that awaits one; else it is the payment of the exit at hand. -/
def receive (databases : PlateDatabases) (depth : ℕ) (outcomes : PaymentAnswers)
    (transData : TransactionData) (run : PaymentRun) : PaymentRun :=
  let payment := paymentOf transData
  let updated := if ObuPresent run.station transData then run
    else run.updateEEPExitTrans databases outcomes payment
  let received := updated.save databases
    (after (processEEPTransData (enableCashcardAt depth) transData) updated.station)
  if payment.due (run.setting databases) run.ledger then
    { received with ledger := payment.settle (run.setting databases) run.ledger }
  else received

/-- One event. -/
def step (databases : PlateDatabases) (depth : ℕ) (run : PaymentRun) : PaymentEvent → PaymentRun
  | .transData transData outcomes => run.receive databases depth outcomes transData.1
  | .saveExit => run.save databases (after Operation.saveExit run.station)
  | .updateExit => run.save databases (after Operation.updateExit run.station)
  | .upload answers =>
      { run with
        station := storeBack (databases.move answers (databaseOf run.station)).state run.station }
  | .transfer =>
      { run with
        station.db.exitTransTmp := []
        exitMain := run.exitMain ++ run.station.db.exitTransTmp }
  | .work other => run.save databases (other.1 run.station)

/-- The tables hold every exit once, as the payments have settled it. -/
def Settled (databases : PlateDatabases) (run : PaymentRun) : Prop :=
  (run.tables.held databases.exitTypes).Perm run.ledger

/-- A payment comes when its vehicle has left, its record is in a central table, and no
other record awaits a payment under the same serial number; an upload takes no record
twice, and deletes no other. -/
def PaidInTime (databases : PlateDatabases) (run : PaymentRun) : PaymentEvent → Prop
  | .transData transData outcomes =>
      let payment := paymentOf transData.1
      let due := payment.due (run.setting databases) run.ledger
      if ObuPresent run.station transData.1 then due = false
      else
        run.ledger.countP (payment.finds (run.setting databases)) = (if due then 1 else 0) ∧
          payment.Reaches (run.setting databases) databases.exitTypes outcomes run.tables
  | .upload answers =>
      exitUpload.DeletesOwn databases.exitTypes answers.rows
        (databases.exitOrdering.select run.station.db.exitTrans.rows) run.station.db.exitTrans.rows
  | _ => True

variable {databases : PlateDatabases} {depth : ℕ} {run : PaymentRun}

theorem tables_updateEEPExitTrans (outcomes : PaymentAnswers) (payment : EepPayment) :
    (run.updateEEPExitTrans databases outcomes payment).tables =
      (payment.updateEEPExitTrans (run.setting databases) outcomes run.tables).1 := by
  unfold updateEEPExitTrans EepPayment.updateEEPExitTrans
  simp only
  split
  · rfl
  · split <;> rfl

theorem newRecords_self (types : ColumnTypes ExitColumn) (state : Db.State) :
    newRecords types state state = [] := by
  simp [newRecords]

/-- A payment for a vehicle that has left finds its record, if it has one. -/
theorem settled_late {outcomes : PaymentAnswers} {transData : TransactionData}
    (hpays : Deducts transData) (habsent : ¬ObuPresent run.station transData)
    (hsettled : Settled databases run)
    (hunique : run.ledger.countP ((paymentOf transData).finds (run.setting databases)) =
      if (paymentOf transData).due (run.setting databases) run.ledger then 1 else 0)
    (hreaches : (paymentOf transData).Reaches (run.setting databases) databases.exitTypes outcomes
      run.tables) :
    Settled databases (run.receive databases depth outcomes transData) := by
  let updated := run.updateEEPExitTrans databases outcomes (paymentOf transData)
  have hperm := EepPayment.perm_settle hsettled hunique hreaches
  rw [← tables_updateEEPExitTrans] at hperm
  have hdb : (after (processEEPTransData (enableCashcardAt depth) transData) updated.station).db =
      updated.station.db := processEEPTransData_of_absent hpays habsent
  have htables : (run.receive databases depth outcomes transData).tables = updated.tables := by
    simp only [receive, if_neg habsent]
    split <;> simp only [PaymentRun.tables, PaymentRun.save, hdb, updated]
  have hledger : (run.receive databases depth outcomes transData).ledger =
      (paymentOf transData).settle (run.setting databases) run.ledger := by
    simp only [receive, if_neg habsent]
    split
    · rfl
    · rename_i hdue
      rw [if_neg hdue] at hunique
      rw [EepPayment.settle_eq_map (by rw [if_neg hdue, hunique]),
        EepPayment.map_payFound_of_none hunique]
      simp only [PaymentRun.save]
      rw [hdb, newRecords_self]
      rfl
  rw [Settled, htables, hledger]
  exact hperm

theorem Settled.save (hsettled : Settled databases run) {station : Station}
    (hgrow : ExitsGrow run.station.db station.db) :
    Settled databases (run.save databases station) :=
  (held_grow hgrow run.exitMain).trans (hsettled.append_left _)

/-- One event keeps the exits. -/
theorem settled_step {event : PaymentEvent} (hsettled : Settled databases run)
    (hintime : run.PaidInTime databases event) :
    Settled databases (run.step databases depth event) := by
  cases event with
  | transData transData outcomes =>
      unfold PaidInTime at hintime
      by_cases hpresent : ObuPresent run.station transData.1
      · simp only [if_pos hpresent] at hintime
        simp only [step, receive, if_pos hpresent, hintime]
        exact hsettled.save (processEEPTransData_savesOne transData.2 hpresent).grow
      · simp only [if_neg hpresent] at hintime
        exact settled_late transData.2 hpresent hsettled hintime.1 hintime.2
  | saveExit => exact hsettled.save (saveExit_savesOne _).grow
  | updateExit => exact hsettled.save (updateExit_savesOne _).grow
  | upload answers =>
      exact (held_move databases.toStationDatabases (databaseOf run.station) run.exitMain
        hintime).trans hsettled
  | transfer =>
      unfold Settled
      exact (held_transfer databases.exitTypes run.tables) ▸ hsettled
  | work other => exact hsettled.save (other.2 _)

/-- A station whose tables hold what they hold. -/
def start (databases : PlateDatabases) (station : Station)
    (exitMain : List (ExitColumn → SqlValue)) : PaymentRun where
  station := station
  exitMain := exitMain
  ledger := ExitTables.held databases.exitTypes
    ⟨station.db.exitTransTmp, exitMain, station.db.exitTrans⟩

/-- What the tables hold when a payment has found its record. -/
def TakesPayment (databases : PlateDatabases) (depth : ℕ) (run : PaymentRun)
    (outcomes : PaymentAnswers) (transData : TransactionData) : Prop :=
  ∃ newer row older, run.ledger = newer ++ row :: older ∧
    (paymentOf transData).finds (run.setting databases) row = true ∧
    (∀ other ∈ newer, (paymentOf transData).names (run.setting databases) other = false) ∧
    ((run.receive databases depth outcomes transData).tables.held databases.exitTypes).Perm
      (newer ++ (paymentOf transData).pay (run.setting databases) row :: older)

/-- A message about the OBU at hand saves one exit at most, with its serial number and
result.  After a run in which the payments are in time the tables hold every exit once,
and the next payment changes the latest record of the OBU and the serial number, and no
other. -/
theorem payments_settled (databases : PlateDatabases) (depth : ℕ) (station : Station)
    (exitMain : List (ExitColumn → SqlValue)) (events : List PaymentEvent) :
    let reached := Machine.run (step databases depth) (start databases station exitMain) events
    (∀ transData : { transData : TransactionData // Deducts transData },
      ObuPresent reached.station transData.1 →
        SavesOne (DeductionOf (decimalIntToHexString transData.1.obuLabel 5)
          (toString transData.1.deductCommandSerialNum) transData.1.resultDeduction)
            reached.station.db
            (after (processEEPTransData (enableCashcardAt depth) transData.1) reached.station).db) ∧
      (Machine.Meets (step databases depth) (PaidInTime databases)
          (start databases station exitMain) events →
        Settled databases reached ∧
          ∀ transData outcomes, reached.PaidInTime databases (.transData transData outcomes) →
            (paymentOf transData.1).due (reached.setting databases) reached.ledger = true →
              reached.TakesPayment databases depth outcomes transData.1) := by
  intro reached
  refine ⟨fun transData hpresent => processEEPTransData_savesOne transData.2 hpresent, ?_⟩
  intro hmeets
  have hstep (run : PaymentRun) (event : PaymentEvent) (hsettled : Settled databases run)
      (hintime : run.PaidInTime databases event) :
      Settled databases (run.step databases depth event) := settled_step hsettled hintime
  have hreached : Settled databases reached :=
    Machine.run_invariant hstep (List.Perm.refl _) hmeets
  refine ⟨hreached, fun transData outcomes hintime hdue => ?_⟩
  obtain ⟨newer, row, older, hledger, hfinds, hothers, hsettle⟩ := EepPayment.settle_of_due hdue
  refine ⟨newer, row, older, hledger, hfinds, hothers, ?_⟩
  have hafter := hstep reached (.transData transData outcomes) hreached hintime
  have hpaid : (reached.receive databases depth outcomes transData.1).ledger =
      (paymentOf transData.1).settle (reached.setting databases) reached.ledger := by
    simp only [receive, if_pos hdue]
  rw [Settled, step, hpaid, hsettle] at hafter
  exact hafter

/-! ## One exit with a later payment -/

/-- The answer "payment later" and the payment. -/
def later (result : ℕ) : TransactionData :=
  { obuLabel := 4660, deductCommandSerialNum := 7, resultDeduction := result, paymentFee := 150 }

/-- The OBU is on the loop of an exit. -/
def obuExit : Station := { emptyExit with tExit.sIUNo := decimalIntToHexString 4660 5 }

/-- The exit is closed, the vehicle leaves, and the server moves the record. -/
def closedLater : List PaymentEvent :=
  [.transData ⟨later 8, by decide⟩ ⟨.done, .done⟩,
    .work ⟨after clearme, fun s => by
      rw [show (after clearme s).db = s.db from Frames.after_eq dbView clearme s]
      exact ⟨List.prefix_refl _, List.prefix_refl _⟩⟩,
    .transfer]

/-- The payment then finds the record. -/
theorem payments_settled_afterwards :
    let reached := Machine.run (step PlateRun.plainPlates 0)
      (start PlateRun.plainPlates obuExit []) closedLater
    Settled PlateRun.plainPlates reached ∧
      reached.TakesPayment PlateRun.plainPlates 0 ⟨.done, .done⟩ (later 1) := by
  have hmeets : Machine.Meets (step PlateRun.plainPlates 0) (PaidInTime PlateRun.plainPlates)
      (start PlateRun.plainPlates obuExit []) closedLater := by
    refine ⟨?_, trivial, trivial, trivial⟩
    unfold PaidInTime
    simp only
    rw [if_pos (by decide +kernel)]
    decide +kernel
  obtain ⟨-, hsettled⟩ := payments_settled PlateRun.plainPlates 0 obuExit [] closedLater
  refine ⟨(hsettled hmeets).1, (hsettled hmeets).2 ⟨later 1, by decide⟩ _ ?_ (by decide +kernel)⟩
  unfold PaidInTime
  simp only
  rw [if_neg (by decide +kernel)]
  refine ⟨by decide +kernel, ?_⟩
  constructor <;> decide +kernel

/-- The payment comes while the vehicle is still on the loop. -/
def paidAtOnce : List PaymentEvent :=
  [.transData ⟨later 8, by decide⟩ ⟨.done, .done⟩, .transData ⟨later 1, by decide⟩ ⟨.done, .done⟩]

/-- The exit is saved twice. -/
theorem not_payments_settled :
    ¬∀ databases depth station exitMain events,
        Settled databases (Machine.run (step databases depth) (start databases station exitMain)
          events) := by
  intro hall
  have htwice := (hall PlateRun.plainPlates 0 obuExit [] paidAtOnce).length_eq
  exact absurd htwice (by decide +kernel)

end PaymentRun

end LinuxPBS.Operation

import LinuxPBS.Operation.Closing
import LinuxPBS.Operation.WalkDevices

/-!
# Invariants of an exit's records

Many properties of an exit are about what has been recorded: the calls, and the last
transaction that has been noted.  A step changes the records when an exit is closed or a
deduction is reported, and in no other way but by a call that records nothing.  So such a
property is an invariant as soon as these two keep it: `history_records`.
-/

set_option synthInstance.maxSize 100000

namespace LinuxPBS.Operation

open Handler CxxText Db

/-- What an exit has recorded. -/
@[reducible] def recordView (s : Station) : TStationType × String × Env × List Call × String :=
  (s.gtStation.iType, s.tEntry.sIUTKNo, s.env, s.calls, s.tProcess.gsLastPaidTrans)

/-- The call does not belong to the end of an exit. -/
def Call.isQuiet : Call → Bool
  | .insertexittrans _ _ | .closeExitOperation _ _ _ | .debitOK _ _ => false
  | _ => true

/-- A property of the records of an exit, which has let no vehicle in. -/
class Recorded (I : Station → Prop) : Prop where
  view : ∀ s s', recordView s' = recordView s → I s → I s'
  iType : ∀ s, I s → s.gtStation.iType = .tiExit
  noEntry : ∀ s, I s → s.tEntry.sIUTKNo = ""
  quiet : ∀ s c, I s → c.isQuiet = true → I { s with calls := c :: s.calls }

variable {I : Station → Prop} [h : Recorded I]

instance {α : Type} (m : Op α) [hm : Frames recordView m] : Leads I I m :=
  ⟨fun s hs => h.view s _ (hm.frames s) hs⟩

instance : Settled I :=
  ⟨fun s s' hlane hs => h.view s s'
    (congrArg (fun l => (l.iType, l.entryIU, l.env, l.calls, l.gsLastPaidTrans)) hlane) hs⟩

instance : AtExit I := ⟨h.iType⟩

instance : NoEntries I := ⟨h.noEntry⟩

instance : Updates I where
  status _ := inferInstance
  vehicle _ := inferInstance
  plate _ := inferInstance
  tailgate _ := inferInstance
  transID _ := inferInstance
  paras _ := inferInstance
  forget := inferInstance

theorem leads_quiet {c : Call} (hc : c.isQuiet = true) : Leads I I (call c) :=
  ⟨fun s hs => h.quiet s c hs hc⟩

instance : Leads I I clearme := by
  have hcall : Leads I I (call .clearme) := leads_quiet rfl
  unfold clearme
  infer_instance

instance (iReason : ℤ) : Leads I I (call (.openBarrier iReason)) := leads_quiet rfl

instance (device : DeviceType) (sCardNo request : String) :
    Leads I I (call (.deduct device sCardNo request)) := leads_quiet rfl

instance (sCardNo : String) (sCardBal : ℚ) :
    Leads I I (call (.balanceChange sCardNo sCardBal)) := leads_quiet rfl

instance : Leads I I updateExit := by
  have hcall (tExit1 : TExitTrans) (ret : DBError) : Leads I I (call (.updateExit tExit1 ret)) :=
    leads_quiet rfl
  unfold updateExit
  infer_instance

/-! ## Asking for a deduction -/

section Requests

variable {enableCashcard : Bool → Op Unit} [∀ bEnable, Leads I I (enableCashcard bEnable)]

instance (obu : String) (lFee : ℚ) (entryTime exitTime : String) :
    Leads I I (eepDebit enableCashcard obu lFee entryTime exitTime) := by
  unfold eepDebit
  infer_instance

instance (obu : String) (lFee : ℚ) (sCardNo : String) (sCardBal : ℚ) :
    Leads I I (chuDebit obu lFee sCardNo sCardBal) := by
  unfold chuDebit sendMsg2CHU
  dsimp only
  infer_instance

instance (cardNo : String) (lFee : ℚ) (iDevicetype : DeviceType) (sCardType : ℤ) (sCardBal : ℚ) :
    Leads I I (debitfromReader cardNo lFee iDevicetype sCardType sCardBal) := by
  unfold debitfromReader
  dsimp only
  infer_instance

variable [Releases I I]

/-- A read keeps the records. -/
theorem checkIUorCardStatus_records (sCheckNo : String) {iDevicetype : DeviceType}
    {sCardNo : String} (hantenna : iDevicetype = .Ant → sCardNo = "") (sCardType : ℤ)
    (sCardBal : ℚ) :
    Leads I I (checkIUorCardStatus enableCashcard sCheckNo iDevicetype sCardNo sCardType
      sCardBal) := by
  have hrequests : Requests enableCashcard iDevicetype sCardNo sCardBal I I :=
    { antenna := hantenna
      wait := fun _ => inferInstance
      eepDebit := fun _ => ⟨I, inferInstance, by split <;> infer_instance, inferInstance⟩
      chuDebit := inferInstance
      debitfromReader := fun _ => inferInstance }
  have hreads : Reads enableCashcard sCardNo sCardBal I I I := by
    refine ⟨fun _ hs _ => hs, fun s hs _ => ?_, fun s hs _ _ => ?_⟩
    · exact Leads.leads (m := setStatus .WaitingCard) s hs
    · have hrelease : Leads I I (releaseBalanceChange enableCashcard sCardNo sCardBal) := by
        unfold releaseBalanceChange
        infer_instance
      exact hrelease.leads s hs
  exact hreads.checkIUorCardStatus_leads sCardType

instance (event : Event) : Checks enableCashcard event I I where
  check r hr sCardType := checkIUorCardStatus_records r.sCheckNo
    (fun hAnt => absurd hAnt (ne_ant_of_cardRead hr)) sCardType r.sCardBal

instance (sNo : String) : Leads I I (vehicleCome enableCashcard sNo) :=
  vehicleCome_leads inferInstance
    (fun sNo _ => checkIUorCardStatus_records sNo (fun _ => rfl) 0 0) sNo

end Requests

/-! ## Closing an exit -/

/-- What `SaveExit` keeps, closing an exit keeps. -/
theorem closeExitOperation_records {s : Station} (iStatus : TransType)
    (hsave : I (after saveExit { s with
      calls := .closeExitOperation iStatus s.tExit s.tParas.gfGSTRate :: s.calls
      tExit := closingStatus iStatus s.tExit })) :
    I (after (closeExitOperation iStatus) s) := by
  have hopen : Leads I I (do
      if iStatus ≠ .UpdateCHUTrans ∧ iStatus ≠ .EZPayParking ∧ iStatus ≠ .AXSParking then
        openbarrier 0) := inferInstance
  unfold closeExitOperation
  rw [after_get_bind, after_call_bind, after_modify_bind]
  exact Leads.after_bind hsave fun _ => hopen

/-! ## Runs -/

variable [Releases I I]

instance (depth : ℕ) (bEnable : Bool) : Leads I I (enableCashcardAt depth bEnable) :=
  enableCashcardAt_leads
    (fun _ _ sNo _ => checkIUorCardStatus_records sNo (fun _ => rfl) 0 0) depth bEnable

variable [Debits I I]

/-- Every event keeps the records. -/
theorem serve_records {s : Station} (hs : I s) (depth : ℕ) (event : Event) :
    I (after (serve depth event) s) := by
  unfold serve
  rw [after_call_bind]
  exact (handleEvent_leads event).leads _ (h.quiet s _ hs rfl)

/-- A run keeps the records. -/
theorem history_records {s : Station} (hs : I s) (depth : ℕ) (events : List Event) :
    I (history depth events s) :=
  run_keeps (fun _ event hs => serve_records hs depth event) events s hs

end LinuxPBS.Operation

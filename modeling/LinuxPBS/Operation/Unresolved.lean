import LinuxPBS.Operation.Swap

/-!
# A request that is not answered yet

`EEPDebit`, `CHUDebit` and `debitfromReader` ask no second device while `giDeductionStatus`
is `Doingdeduction`, and an answer is booked on the vehicle that `tExit` has when it comes.
Both rely on the one flag and on `tExit` until the answer is there.  Events that are spared
leave them alone; `Clearme` and the reads of other cards do not.
-/

set_option synthInstance.maxSize 10000

namespace LinuxPBS.Operation

open Handler CxxText Common

/-- `device` has been asked for a deduction and has not answered. -/
structure Unresolved (device : DeviceType) (s : Station) : Prop where
  doing : s.tExit.giDeductionStatus = .Doingdeduction
  device : deductingDevice s = some device

instance (device : DeviceType) (s : Station) : Decidable (Unresolved device s) :=
  decidable_of_iff (s.tExit.giDeductionStatus = .Doingdeduction ∧ deductingDevice s = some device)
    ⟨fun h => ⟨h.1, h.2⟩, fun h => ⟨h.doing, h.device⟩⟩

section Runs

variable {s : Station} {depth : ℕ} {device : DeviceType}

theorem Unresolved.of_debited {t : Station} (hs : Unresolved device s)
    (hview : debited t = debited s) : Unresolved device t := by
  simp only [debited, Prod.mk.injEq] at hview
  obtain ⟨hstatus, -, -, -, hrequests⟩ := hview
  refine ⟨hstatus.trans hs.doing, ?_⟩
  rw [deductingDevice, hrequests]
  exact hs.device

/-- The books of an exit, in which the deduction of `s` is under way. -/
structure SameRequest (s t : Station) : Prop where
  books : Books t
  debited : debited t = debited s

/-- In a run of events that are spared the deduction stays the one that was requested. -/
theorem sameRequest_history (hs : Books s) (hdoing : s.tExit.giDeductionStatus = .Doingdeduction)
    {events : List Event} (hspared : Along (serve depth) Spares events s) :
    SameRequest s (history depth events s) := by
  have hstep (t : Station) (event : Event) (ht : SameRequest s t) (hevent : Spares t event) :
      SameRequest s (after (serve depth event) t) := by
    have hsame := congrArg Prod.fst ht.debited
    refine ⟨serve_records ht.books depth event, ?_⟩
    exact (debited_serve ht.books.iType ht.books.noEntry (hsame.trans hdoing) hevent).trans
      ht.debited
  exact run_invariant hstep events s ⟨hs, rfl⟩ hspared

/-! ## One request at a time -/

end Runs

/-- The vehicle of an exit that is closed as paid. -/
def Call.paidExit : Call → Option String
  | .closeExitOperation .DeductionOK tExit _ => some tExit.sIUNo
  | _ => none

/-- The exits that have been closed as paid since `older` are those of `sIUNo`. -/
def ClosesOnly (older : List Call) (sIUNo : String) (s : Station) : Prop :=
  ∃ new, s.calls = new ++ older ∧ ∀ paid ∈ new.filterMap Call.paidExit, paid = sIUNo

/-- The vehicle is still the one that is closed. -/
structure Closing (older : List Call) (sIUNo : String) (s : Station) : Prop where
  closes : ClosesOnly older sIUNo s
  vehicle : s.tExit.sIUNo = sIUNo

section Closing

variable {older : List Call} {sIUNo : String}

theorem ClosesOnly.call {s : Station} (hs : ClosesOnly older sIUNo s) {c : Call}
    (hc : ∀ paid, c.paidExit = some paid → paid = sIUNo) :
    ClosesOnly older sIUNo { s with calls := c :: s.calls } := by
  obtain ⟨new, hcalls, hnew⟩ := hs
  refine ⟨c :: new, congrArg (c :: ·) hcalls, fun paid hpaid => ?_⟩
  rw [List.filterMap_cons] at hpaid
  split at hpaid
  · exact hnew paid hpaid
  · rename_i hclosed
    rcases List.mem_cons.mp hpaid with rfl | hrest
    · exact hc _ hclosed
    · exact hnew paid hrest

instance {α : Type} (m : Op α) [hm : Frames Station.calls m] :
    Leads (ClosesOnly older sIUNo) (ClosesOnly older sIUNo) m where
  leads s hs := by
    obtain ⟨new, hcalls, hnew⟩ := hs
    exact ⟨new, (hm.frames s).trans hcalls, hnew⟩

instance {α : Type} (m : Op α) [hm : Frames (fun s => (s.calls, s.tExit.sIUNo)) m] :
    Leads (Closing older sIUNo) (Closing older sIUNo) m where
  leads s hs := by
    have hview := hm.frames s
    obtain ⟨new, hcalls, hnew⟩ := hs.closes
    have hsame : (after m s).calls = s.calls := congrArg Prod.fst hview
    have hvehicle : (after m s).tExit.sIUNo = s.tExit.sIUNo := congrArg Prod.snd hview
    exact ⟨⟨new, hsame.trans hcalls, hnew⟩, hvehicle.trans hs.vehicle⟩

instance : Entails (Closing older sIUNo) (ClosesOnly older sIUNo) := ⟨fun _ hs => hs.closes⟩

theorem closesOnly_call {c : Call} (hc : c.paidExit = none) :
    Leads (ClosesOnly older sIUNo) (ClosesOnly older sIUNo) (call c) where
  leads _ hs := hs.call fun paid hpaid => absurd (hc.symm.trans hpaid) (by simp)

instance : Leads (ClosesOnly older sIUNo) (ClosesOnly older sIUNo) clearme := by
  have hcall : Leads (ClosesOnly older sIUNo) (ClosesOnly older sIUNo) (call .clearme) :=
    closesOnly_call rfl
  unfold clearme
  infer_instance

instance : Settled (ClosesOnly older sIUNo) where
  settled s s' hlane hs := by
    obtain ⟨new, hcalls, hnew⟩ := hs
    have hsame : s'.calls = s.calls := congrArg Lane.calls hlane
    exact ⟨new, hsame.trans hcalls, hnew⟩

instance (iReason : ℤ) :
    Leads (ClosesOnly older sIUNo) (ClosesOnly older sIUNo) (call (.openBarrier iReason)) :=
  closesOnly_call rfl

instance : Leads (ClosesOnly older sIUNo) (ClosesOnly older sIUNo) saveExit where
  leads s hs := by
    by_cases hIU : s.tExit.sIUNo = ""
    · rw [after_saveExit_unknown hIU]
      exact hs
    · obtain ⟨row, ret, -, -, -, hsaved⟩ := after_saveExit hIU
      have hcalls : (after saveExit s).calls = .insertexittrans row ret :: s.calls :=
        congrArg Lane.calls hsaved.lane_eq
      obtain ⟨new, hsame, hnew⟩ :=
        hs.call (c := .insertexittrans row ret) (fun paid hpaid => nomatch hpaid)
      exact ⟨new, hcalls.trans hsame, hnew⟩

instance : Leads (Closing older sIUNo) (ClosesOnly older sIUNo)
    (closeExitOperation .DeductionOK) where
  leads s hs := by
    have hrest : Leads (ClosesOnly older sIUNo) (ClosesOnly older sIUNo) (do
        modify fun s => { s with tExit := closingStatus .DeductionOK s.tExit }
        saveExit
        openbarrier 0) := inferInstance
    have hclosing : ClosesOnly older sIUNo { s with
        calls := .closeExitOperation .DeductionOK s.tExit s.tParas.gfGSTRate :: s.calls } :=
      hs.closes.call fun paid hpaid => (Option.some.inj hpaid).symm.trans hs.vehicle
    exact hrest.leads _ hclosing

instance (sCardNo sPaidAmt sBal : String) (iCardType : ℤ) (sTopupAmt : String)
    (iDevicetype : DeviceType) : Leads (Closing older sIUNo) (ClosesOnly older sIUNo)
      (debitOK "" sCardNo sPaidAmt sBal iCardType sTopupAmt iDevicetype) := by
  have hcall : Leads (Closing older sIUNo) (Closing older sIUNo)
      (call (.debitOK iDevicetype sPaidAmt)) :=
    ⟨fun s hs => ⟨hs.closes.call (fun paid hpaid => nomatch hpaid), hs.vehicle⟩⟩
  unfold debitOK
  simp only [ne_eq, not_true_eq_false, false_and, if_false]
  have hclose : Leads (Closing older sIUNo) (ClosesOnly older sIUNo) (do
      modify fun s => { s with tExit.giDeductionStatus := .DeductionSuccessed }
      let _ ← get
      closeExitOperation .DeductionOK) := inferInstance
  infer_instance

/-- A deduction of the LCSC closes the exit of the vehicle that is there. -/
instance (sCardNo sBalanceAfterTrans : String) :
    Leads (Closing older sIUNo) (ClosesOnly older sIUNo)
      (lcscDeducted sCardNo sBalanceAfterTrans) := by
  unfold lcscDeducted
  infer_instance

/-- A payment of the UPOS closes the exit of the vehicle that is there. -/
instance (event : List (String × String)) :
    Leads (Closing older sIUNo) (ClosesOnly older sIUNo) (uptPaid event) := by
  unfold uptPaid
  infer_instance

end Closing

/-- The reader whose deduction has succeeded. -/
def paidBy : Event → Option DeviceType
  | .lcsc eventData => if lcscStatus eventData = 6 then some .LCSC else none
  | .upt cmd eventData =>
      if cmd = .PAYMENT_MODE_AUTO_REQUEST ∧ uptStatus eventData = 0 then some .UPOS else none
  | _ => none

theorem closesOnly_serve {s : Station} {event : Event} {device : DeviceType}
    (hpaid : paidBy event = some device) (depth : ℕ) :
    ClosesOnly s.calls s.tExit.sIUNo (after (serve depth event) s) := by
  have hcalled : Closing s.calls s.tExit.sIUNo (called s event) :=
    ⟨⟨[.handleEvent event], rfl, by simp [Call.paidExit]⟩, rfl⟩
  rw [serve, after_call_bind]
  cases event with
  | lcsc eventData =>
      have h6 : lcscStatus eventData = 6 := by
        by_contra hother
        simp [paidBy, hother] at hpaid
      rw [handleEvent, processLCSC]
      dsimp only
      rw [show lastRead stoi "msgStatus" (-101) (pairs eventData) = 6 from h6, if_neg (by decide),
        if_neg (by decide), if_neg (by decide), if_pos rfl]
      exact Leads.leads (P := Closing s.calls s.tExit.sIUNo) _ hcalled
  | upt cmd eventData =>
      have hsuccess : cmd = .PAYMENT_MODE_AUTO_REQUEST ∧ uptStatus eventData = 0 := by
        by_contra hother
        simp [paidBy, hother] at hpaid
      obtain ⟨rfl, h0⟩ := hsuccess
      have hstatus : lastRead (fun value => (stoull value).map (· % 2 ^ 32)) "msgStatus" 8
          (pairs eventData) = 0 := h0
      rw [handleEvent, processUPT, if_neg (by decide), if_pos rfl, uptPayment]
      dsimp only
      rw [if_pos hstatus, after_catchException]
      exact Leads.leads (P := Closing s.calls s.tExit.sIUNo) _ hcalled
  | _ => cases hpaid

/-! ## Whom a success pays for -/

/-- The success `event`, served in `answered`, belongs to the request in `requested`: the
deduction is still under way, by the reader that reports it, for the same vehicle and amount,
and only the exit of that vehicle is closed as paid. -/
structure PaysRequested (depth : ℕ) (requested answered : Station) (event : Event) : Prop where
  doing : answered.tExit.giDeductionStatus = .Doingdeduction
  device : deductingDevice answered = paidBy event
  requestedFor : requestedFor answered = requestedFor requested
  requests : requests answered = requests requested
  closes : ClosesOnly answered.calls requested.tExit.sIUNo (after (serve depth event) answered)

/-- After any run of an exit, a success of the LCSC or the UPOS pays for the vehicle its
deduction was requested for, when only spared events have come since the request. -/
theorem success_paysRequested {s : Station} (hs : NewExit s) (depth : ℕ) (events : List Event)
    {device : DeviceType} (hunresolved : Unresolved device (history depth events s))
    {later : List Event} (hspared : Along (serve depth) Spares later (history depth events s))
    {event : Event} (hpaid : paidBy event = some device) :
    PaysRequested depth (history depth events s) (history depth later (history depth events s))
      event := by
  have hbooks : Books s := ⟨hs.iType, hs.noEntry, by rw [hs.noCalls]; trivial⟩
  have hsame := sameRequest_history (history_records hbooks depth events) hunresolved.doing hspared
  have hanswered := hunresolved.of_debited hsame.debited
  have hview := hsame.debited
  simp only [debited, Prod.mk.injEq] at hview
  obtain ⟨-, hIU, htime, hfee, hrequests⟩ := hview
  refine ⟨hanswered.doing, hanswered.device.trans hpaid.symm, ?_, hrequests, ?_⟩
  · rw [requestedFor, requestedFor, hIU, htime, hfee]
  · rw [← hIU]
    exact closesOnly_serve hpaid depth

theorem success_paysRequested_LCSC :
    PaysRequested 3 deductingExit (history 3 [.ksmCardIn] deductingExit)
      (.lcsc "msgStatus=6,CAN=1111222233334444,BalanceAfterTrans=4700") := by
  have hunresolved : Unresolved .LCSC deductingExit := by decide +kernel
  refine success_paysRequested newExit_readerExit 3 _ hunresolved ?_ (by decide +kernel)
  refine ⟨trivial, ?_⟩
  split <;> trivial

/-- The card of one vehicle is debited when the next vehicle arrives: its exit is closed as paid
by that card. -/
theorem not_success_paysRequested :
    NewExit readerExit ∧ Unresolved .LCSC deductingExit ∧
      paidBy (.lcsc "msgStatus=6,CAN=1111222233334444,BalanceAfterTrans=4700") = some .LCSC ∧
      (history 3 [.dio .LOOP_A_ON_EVENT, .antennaIUCome "1234567890",
          .lcsc "msgStatus=6,CAN=1111222233334444,BalanceAfterTrans=4700"]
        deductingExit).calls.filterMap Call.paidExit = ["1234567890"] ∧
      deductingExit.tExit.sIUNo = "1111222233334444" :=
  ⟨newExit_readerExit, by decide +kernel, by decide +kernel, by decide +kernel, by decide +kernel⟩

end LinuxPBS.Operation

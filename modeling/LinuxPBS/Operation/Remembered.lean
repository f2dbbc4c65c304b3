import LinuxPBS.Operation.PaidAmount

/-!
# The vehicle that was saved last

`SaveExit` remembers the vehicle it has saved (`gsLastIUNo`, `gsLastPaidTrans`,
`lastTransTime`), and `CheckIUorCardStatus` opens the barrier for it when it is read again
within `giMaxTransInterval`.  Two things can go wrong.

The answer of `insertexittrans` is kept in `iRet`, and so is that of every statement that
follows it.  When the last one fails, an exit that has been stored is not remembered.

A vehicle that is remembered is let through only if `gbLastPaidStatus` is set.  A deduction
sets it, and so does an exit for nothing, but not a balance change, a reject code 7 or a
barrier opened by hand: those vehicles are charged a second time.
-/

set_option synthInstance.maxSize 100000

namespace LinuxPBS.Operation

open Handler CxxText Common Db

/-! ## What follows an insert -/

/-- The answer means that the row is stored. -/
def Succeeds (ret : DBError) : Prop := ret = .iCentralSuccess ∨ ret = .iLocalSuccess

instance : DecidablePred Succeeds := fun _ => inferInstanceAs (Decidable (_ ∨ _))

/-- The answer to the `INSERT` of `SaveExit`. -/
def exitAnswer (s : Station) : DBError :=
  (insertExitTrans (s.env.centraldb s.asked) (s.env.localdb (s.asked + 1))
    { s.db with operation := some (sharedData { s with tExit := settleExit s }) }
    (settleExit s).toTExitTrans).2.2

/-- `SaveExit` asks for the ticket to be marked as used. -/
def MarksTicket (s : Station) : Prop :=
  gfeeFormat (gfeeFormat (settleExit s).sRedeemAmt) > 0 ∨ s.tExit.iTransType = 10

instance (s : Station) : Decidable (MarksTicket s) := inferInstanceAs (Decidable (_ ∨ _))

/-- What `iRet` is in the end. -/
def finalAnswer (s : Station) : DBError :=
  if exitAnswer s = .iCentralSuccess then
    if MarksTicket s then s.env.updateUsedTicket (s.asked + 3)
    else if s.tExit.bNoEntryRecord = 0 then s.env.updatemovementtrans (s.asked + 2)
    else s.env.insert2movementtrans (s.asked + 2)
  else exitAnswer s

/-- What the server is told about an exit that is saved. -/
@[reducible] def exitReport (s : Station) (result : String) : String :=
  s.tExit.sIUNo ++ "," ++ s.tExit.sCardNo ++ "," ++ setFeeFormat s.tExit.sPaidAmt ++ "," ++
    reportedLPN s.tExit.iTransType s.tExit.sLPN0 s.tExit.sLPN1 ++ "," ++
    toString s.tProcess.giShowType ++ "," ++ result

/-- The exit that `s` saves is remembered and reported in `t`. -/
structure Remembers (s t : Station) : Prop where
  lastIU : t.tProcess.gsLastIUNo = s.tExit.sIUNo
  lastTrans : t.tProcess.gsLastPaidTrans = s.tExit.sIUNo
  time : t.tProcess.lastTransTime ∈ Set.range fun n => s.env.steadyClock (s.asked + n)
  dbStatus : t.dbErrNo = 0
  reported : s.sent.count (.server "90" (exitReport t "Exit OK")) <
    t.sent.count (.server "90" (exitReport t "Exit OK"))

/-- The last statement of `SaveExit` succeeds, and the exit is one that is reported. -/
def Noted (s : Station) : Prop := Succeeds (finalAnswer s) ∧ s.tExit.iStatus = 0

instance (s : Station) : Decidable (Noted s) := inferInstanceAs (Decidable (_ ∧ _))

/-- The statements after an `INSERT`. -/
theorem followUp_eq (iRet : DBError) (s : Station) :
    ∃ t, s.asked ≤ t.asked ∧ followUp iRet s =
      .ok (if iRet = .iCentralSuccess then
          if gfeeFormat s.tExit.sRedeemAmt > 0 ∨ s.tExit.iTransType = 10 then
            s.env.updateUsedTicket (s.asked + 1)
          else if s.tExit.bNoEntryRecord = 0 then s.env.updatemovementtrans s.asked
          else s.env.insert2movementtrans s.asked
        else iRet) t := by
  have htail (moved : DBError) (t : Station) :
      ∃ t', t.asked ≤ t'.asked ∧ (do
          modify fun s => { s with tExit := takeAmounts s.tExit (formatExit s.tExit.toTExitTrans) }
          let s ← get
          if s.tExit.sRedeemAmt > 0 ∨ s.tExit.iTransType = 10 then
            modify fun s => { s with
              tExit.iUsedTicketBy := if s.tExit.iUsedTicketBy = 0 then 1 else s.tExit.iUsedTicketBy }
            ask Env.updateUsedTicket
          else pure moved : Op DBError) t =
        .ok (if gfeeFormat t.tExit.sRedeemAmt > 0 ∨ t.tExit.iTransType = 10 then
            t.env.updateUsedTicket t.asked else moved) t' := by
    rw [modify_bind, get_bind]
    by_cases hmarks : gfeeFormat t.tExit.sRedeemAmt > 0 ∨ t.tExit.iTransType = 10
    · rw [if_pos hmarks]
      exact ⟨_, Nat.le_succ _, congrFun (if_pos hmarks) _⟩
    · rw [if_neg hmarks]
      refine ⟨_, ?_, congrFun (if_neg hmarks) _⟩
      exact le_rfl
  unfold followUp
  by_cases hcentral : iRet = .iCentralSuccess
  · rw [if_pos hcentral, if_pos hcentral, get_bind]
    by_cases hentry : s.tExit.bNoEntryRecord = 0
    · rw [if_pos hentry, if_pos hentry, ask_bind]
      obtain ⟨t, hasked, ht⟩ := htail (s.env.updatemovementtrans s.asked)
        { s with asked := s.asked + 1 }
      exact ⟨t, (Nat.le_succ _).trans hasked, ht⟩
    · rw [if_neg hentry, if_neg hentry, ask_bind]
      obtain ⟨t, hasked, ht⟩ := htail (s.env.insert2movementtrans s.asked)
        { s with asked := s.asked + 1 }
      exact ⟨t, (Nat.le_succ _).trans hasked, ht⟩
  · rw [if_neg hcentral, if_neg hcentral]
    exact ⟨s, le_rfl, rfl⟩

/-! ## Saving an exit -/

/-- The text of the report. -/
def exitResult (iRet : DBError) : String :=
  if Succeeds iRet then "Exit OK"
  else if iRet = .iCentralFail then "Exit Central Failed" else "Exit Local Failed"

/-- What is reported, and what is remembered of it. -/
structure Reports (iRet : DBError) (s t : Station) : Prop where
  tExit : t.tExit = s.tExit
  giShowType : t.tProcess.giShowType = s.tProcess.giShowType
  calls : t.calls = s.calls
  sent : t.sent =
    (if s.tExit.iStatus = 0 then [.server "90" (exitReport s (exitResult iRet))] else []) ++
      .updateLocalEntry s.tExit.sIUNo :: s.sent
  remembered : Succeeds iRet → t.tProcess.gsLastIUNo = s.tExit.sIUNo ∧
    t.tProcess.gsLastPaidTrans = s.tExit.sIUNo ∧
    t.tProcess.lastTransTime = s.env.steadyClock s.asked ∧ t.dbErrNo = 0
  failed : ¬Succeeds iRet → t.tProcess.gsLastPaidTrans = s.tProcess.gsLastPaidTrans ∧
    t.dbErrNo ≠ 0

theorem after_reportExit (iRet : DBError) (s : Station) :
    Reports iRet s (after (reportExit iRet) s) := by
  have hret (answer : DBError) :
      answer = .iCentralSuccess ∨ answer = .iLocalSuccess ↔ Succeeds answer := Iff.rfl
  unfold reportExit sendMsg2Server
  simp only [hret, after_get_bind, after_send_bind, after_ask_bind]
  by_cases hsucceeds : Succeeds iRet
  · have hresult : exitResult iRet = "Exit OK" := if_pos hsucceeds
    simp only [hsucceeds, if_true, after_modify_bind, after_ite]
    split
    · rename_i hstatus
      refine ⟨rfl, rfl, rfl, ?_, fun _ => ⟨rfl, rfl, rfl, rfl⟩, fun h => absurd hsucceeds h⟩
      rw [if_pos hstatus, hresult]
      rfl
    · rename_i hstatus
      refine ⟨rfl, rfl, rfl, ?_, fun _ => ⟨rfl, rfl, rfl, rfl⟩, fun h => absurd hsucceeds h⟩
      rw [if_neg hstatus]
      rfl
  · have hresult : exitResult iRet =
        if iRet = .iCentralFail then "Exit Central Failed" else "Exit Local Failed" :=
      if_neg hsucceeds
    have herror : (if iRet = .iCentralFail then (-1 : ℤ) else -2) ≠ 0 := by
      split_ifs <;> decide
    simp only [hsucceeds, if_false, after_modify_bind, after_ite]
    split
    · rename_i hstatus
      refine ⟨rfl, rfl, rfl, ?_, fun h => absurd h hsucceeds, fun _ => ⟨rfl, herror⟩⟩
      rw [if_pos hstatus, hresult]
      rfl
    · rename_i hstatus
      refine ⟨rfl, rfl, rfl, ?_, fun h => absurd h hsucceeds, fun _ => ⟨rfl, herror⟩⟩
      rw [if_neg hstatus]
      rfl

/-- How often the server has been told a text. -/
@[reducible] def told (cmdcode dstr : String) (s : Station) : ℕ :=
  s.sent.count (.server cmdcode dstr)

/-- What the report of an exit leaves behind. -/
@[reducible] def memory (s : Station) : String × String × ℤ × ℤ × String × List Call :=
  (s.tProcess.gsLastIUNo, s.tProcess.gsLastPaidTrans, s.tProcess.lastTransTime, s.dbErrNo,
    exitReport s "Exit OK", s.calls)

instance : Frames memory printReceipt := by
  unfold printReceipt
  infer_instance

instance (cmdcode dstr : String) : Frames (told cmdcode dstr) (send .printTR) where
  frames s := List.count_cons_of_ne (by simp)

instance (cmdcode dstr : String) : Frames (told cmdcode dstr) printReceipt := by
  unfold printReceipt
  infer_instance

/-- The vehicle of a record that has been handed to the database, and its redemption. -/
theorem insertExitTrans_vehicle (centraldb localdb : ConnectionAnswers) (store : Db.State)
    {data : OperationSharedData} (hdata : store.operation = some data) (exitTrans : TExitTrans) :
    (insertExitTrans centraldb localdb store exitTrans).2.1.sIUNo = exitTrans.sIUNo ∧
      (insertExitTrans centraldb localdb store exitTrans).2.1.sRedeemAmt =
        gfeeFormat exitTrans.sRedeemAmt := by
  unfold insertExitTrans
  simp only [hdata]
  split
  · exact ⟨rfl, rfl⟩
  · unfold clampParkedTime
    split <;> exact ⟨rfl, rfl⟩

/-- `insertexittrans` in `SaveExit`. -/
theorem insertexittrans_settled (s : Station) :
    ∃ row t, insertexittrans { s with tExit := settleExit s } = .ok (exitAnswer s) t ∧
      row.sIUNo = s.tExit.sIUNo ∧ row.sPaidAmt = outstanding s.tExit ∧ t.calls = .insertexittrans row (exitAnswer s) :: s.calls ∧
      t.tExit.sIUNo = s.tExit.sIUNo ∧ t.tExit.iStatus = s.tExit.iStatus ∧
      t.tExit.bNoEntryRecord = s.tExit.bNoEntryRecord ∧
      t.tExit.iTransType = s.tExit.iTransType ∧
      t.tExit.sRedeemAmt = gfeeFormat (settleExit s).sRedeemAmt ∧
      t.asked = s.asked + 2 ∧ t.env = s.env ∧ t.sent = s.sent ∧
      t.tProcess.gsLastPaidTrans = s.tProcess.gsLastPaidTrans := by
  obtain ⟨hIU, hredeem⟩ := insertExitTrans_vehicle (s.env.centraldb s.asked)
    (s.env.localdb (s.asked + 1))
    { s.db with operation := some (sharedData { s with tExit := settleExit s }) } rfl
    (settleExit s).toTExitTrans
  obtain ⟨hpaid, -⟩ := insertExitTrans_amounts (s.env.centraldb s.asked)
    (s.env.localdb (s.asked + 1))
    { s.db with operation := some (sharedData { s with tExit := settleExit s }) } rfl
    (settleExit s).toTExitTrans
  refine ⟨_, _, rfl, hIU, ?_, rfl, rfl, rfl, rfl, rfl, hredeem, rfl, rfl, rfl, rfl⟩
  exact hpaid.trans (gfeeFormat_gfeeFormat _)

/-- What `followUp` leaves alone. -/
@[reducible] def reportedView (s : Station) :
    String × ℤ × Env × List Call × List Message × String :=
  (s.tExit.sIUNo, s.tExit.iStatus, s.env, s.calls, s.sent, s.tProcess.gsLastPaidTrans)

instance (iRet : DBError) : Frames reportedView (followUp iRet) := by
  unfold followUp takeAmounts
  dsimp only
  infer_instance

/-- The end of `SaveExit`. -/
def saveEnd : Op Unit := do
  modify fun s => { s with tProcess.gbsavedtrans := true, tExit.gbPaid := true }
  if (← get).tExit.sPaidAmt = 0 then
    modify fun s => { s with
      tProcess.gsLastCardNo := s.tExit.sCardNo
      tProcess.gbLastPaidStatus := true }
  printReceipt

instance : Frames memory saveEnd := by
  unfold saveEnd
  infer_instance

instance (cmdcode dstr : String) : Frames (told cmdcode dstr) saveEnd := by
  unfold saveEnd
  infer_instance

/-- `SaveExit` for a vehicle that is known: what is remembered depends on the last answer. -/
theorem saveExit_remembers {s : Station} (hIU : s.tExit.sIUNo ≠ "") :
    (∃ row, row.sIUNo = s.tExit.sIUNo ∧ row.sPaidAmt = outstanding s.tExit ∧
      (after saveExit s).calls = .insertexittrans row (exitAnswer s) :: s.calls) ∧
    (Remembers s (after saveExit s) ↔ Noted s) ∧
    (after saveExit s).tProcess.gsLastPaidTrans =
      if Succeeds (finalAnswer s) then s.tExit.sIUNo else s.tProcess.gsLastPaidTrans := by
  obtain ⟨row, s₁, hok₁, hrow, hpaid, hcalls₁, hIU₁, hstatus₁, hentry₁, htype₁, hredeem₁, hasked₁, henv₁,
    hsent₁, hlast₁⟩ := insertexittrans_settled s
  obtain ⟨s₂, hasked₂, hok₂⟩ := followUp_eq (exitAnswer s) s₁
  rw [hredeem₁, htype₁, hentry₁, henv₁, hasked₁] at hok₂
  change followUp (exitAnswer s) s₁ = .ok (finalAnswer s) s₂ at hok₂
  have hview₂ : reportedView s₂ = reportedView s₁ := Frames.of_ok hok₂
  simp only [reportedView, hIU₁, hstatus₁, henv₁, hcalls₁, hsent₁, hlast₁, Prod.mk.injEq] at hview₂
  obtain ⟨hIU₂, hstatus₂, henv₂, hcalls₂, hsent₂, hlast₂⟩ := hview₂
  obtain ⟨⟨⟩, s₃, hok₃⟩ := Returns.returns (m := reportExit (finalAnswer s)) s₂
  have hreports : Reports (finalAnswer s) s₂ s₃ :=
    after_of_ok hok₃ ▸ after_reportExit (finalAnswer s) s₂
  have hend : after saveExit s = after saveEnd s₃ := by
    unfold saveExit
    rw [after_get_bind, if_neg hIU, after_modify_bind, after_bind_of_ok hok₁,
      after_bind_of_ok hok₂, after_bind_of_ok hok₃]
    rfl
  have hmemory := Frames.after_eq memory saveEnd s₃
  have htold (dstr : String) : (after saveEnd s₃).sent.count (.server "90" dstr) =
      s₃.sent.count (.server "90" dstr) := Frames.after_eq (told "90" dstr) saveEnd s₃
  have hreport : exitReport s₃ "Exit OK" = exitReport s₂ "Exit OK" := by
    rw [exitReport, exitReport, hreports.tExit, hreports.giShowType]
  rw [hend]
  simp only [memory, Prod.mk.injEq] at hmemory
  obtain ⟨hlastIU, hlastTrans, htime, hdb, hexit, hcalls⟩ := hmemory
  refine ⟨⟨row, hrow, hpaid, ?_⟩, ?_, ?_⟩
  · rw [hcalls, hreports.calls, hcalls₂]
  · constructor
    · intro hremembers
      have hsucceeds : Succeeds (finalAnswer s) := by
        by_contra hfails
        exact (hreports.failed hfails).2 (hdb ▸ hremembers.dbStatus)
      refine ⟨hsucceeds, ?_⟩
      by_contra hstatus
      have hreported := hremembers.reported
      rw [htold, hreports.sent, if_neg (hstatus₂ ▸ hstatus), List.nil_append, hsent₂,
        List.count_cons_of_ne (by simp)] at hreported
      exact lt_irrefl _ hreported
    · rintro ⟨hsucceeds, hstatus⟩
      obtain ⟨hIU₃, htrans₃, htime₃, hdb₃⟩ := hreports.remembered hsucceeds
      refine ⟨hlastIU ▸ hIU₃ ▸ hIU₂, hlastTrans ▸ htrans₃ ▸ hIU₂, ?_, hdb ▸ hdb₃, ?_⟩
      · refine ⟨s₂.asked - s.asked, ?_⟩
        have hlater : s.asked ≤ s₂.asked := by omega
        rw [htime, htime₃, henv₂]
        exact congrArg s.env.steadyClock (Nat.add_sub_cancel' hlater)
      · rw [htold, hreports.sent, if_pos (hstatus₂ ▸ hstatus), hexit, hreport, hsent₂,
          exitResult, if_pos hsucceeds, List.singleton_append, List.count_cons_self,
          List.count_cons_of_ne (by simp)]
        exact Nat.lt_succ_self _
  · rw [hlastTrans]
    by_cases hsucceeds : Succeeds (finalAnswer s)
    · rw [if_pos hsucceeds, (hreports.remembered hsucceeds).2.1, hIU₂]
    · rw [if_neg hsucceeds, (hreports.failed hsucceeds).1, hlast₂]

/-! ## Runs -/

/-- The statements after the inserts succeed. -/
structure FollowsUp (env : Env) : Prop where
  moved : ∀ n, Succeeds (env.updatemovementtrans n)
  inserted : ∀ n, Succeeds (env.insert2movementtrans n)
  marked : ∀ n, Succeeds (env.updateUsedTicket n)

theorem FollowsUp.finalAnswer_iff {s : Station} (h : FollowsUp s.env) :
    Succeeds (finalAnswer s) ↔ Succeeds (exitAnswer s) := by
  unfold finalAnswer
  by_cases hcentral : exitAnswer s = .iCentralSuccess
  · rw [if_pos hcentral]
    refine iff_of_true ?_ (Or.inl hcentral)
    split_ifs
    · exact h.marked _
    · exact h.moved _
    · exact h.inserted _
  · rw [if_neg hcentral]

/-- The last exit that was stored is the last transaction, unless a deduction has been reported
since then. -/
def Recalled (gsLastPaidTrans : String) : List Call → Prop
  | [] => True
  | .debitOK _ _ :: _ => True
  | .insertexittrans row ret :: older =>
      if Succeeds ret then gsLastPaidTrans = row.sIUNo else Recalled gsLastPaidTrans older
  | _ :: older => Recalled gsLastPaidTrans older

/-- An exit that recalls the vehicle it saved last. -/
structure Recalls (s : Station) : Prop where
  iType : s.gtStation.iType = .tiExit
  noEntry : s.tEntry.sIUTKNo = ""
  followsUp : FollowsUp s.env
  recalled : Recalled s.tProcess.gsLastPaidTrans s.calls

theorem Recalls.of_view {s s' : Station} (hview : recordView s' = recordView s) (hs : Recalls s) :
    Recalls s' := by
  simp only [recordView, Prod.mk.injEq] at hview
  obtain ⟨hiType, hentry, henv, hcalls, hlast⟩ := hview
  refine ⟨hiType ▸ hs.iType, hentry ▸ hs.noEntry, henv ▸ hs.followsUp, ?_⟩
  rw [hlast, hcalls]
  exact hs.recalled

/-- Only a row that is stored changes what has to be recalled. -/
theorem Recalls.call {s : Station} (hs : Recalls s) {c : Call}
    (hc : ∀ row ret, c ≠ .insertexittrans row ret) : Recalls { s with calls := c :: s.calls } := by
  refine ⟨hs.iType, hs.noEntry, hs.followsUp, ?_⟩
  cases c with
  | insertexittrans row ret => exact absurd rfl (hc row ret)
  | debitOK iDevicetype sPaidAmt => trivial
  | _ => exact hs.recalled

instance : Recorded Recalls where
  view _ _ hview hs := hs.of_view hview
  iType _ hs := hs.iType
  noEntry _ hs := hs.noEntry
  quiet _ _ hs hquiet := hs.call fun _ _ hrow => by
    subst hrow
    exact absurd hquiet Bool.false_ne_true

/-- The vehicle that is saved is recalled. -/
theorem Recalls.saveExit {s : Station} (hs : Recalls s) : Recalls (after saveExit s) := by
  by_cases hIU : s.tExit.sIUNo = ""
  · rw [after_saveExit_unknown hIU]
    exact hs
  obtain ⟨⟨row, hrow, -, hcalls⟩, -, hlast⟩ := saveExit_remembers hIU
  obtain ⟨_, _, -, -, -, hsaved⟩ := after_saveExit hIU
  have hlane := hsaved.lane_eq
  simp only [lane, Lane.mk.injEq] at hlane
  refine ⟨?_, ?_, ?_, ?_⟩
  · simp only [hlane, hs.iType]
  · simp only [hlane, hs.noEntry]
  · simp only [hlane, hs.followsUp]
  · rw [hcalls, hlast, Recalled, if_congr hs.followsUp.finalAnswer_iff rfl rfl]
    split
    · rename_i hstored
      rw [hrow]
    · exact hs.recalled

instance (iStatus : TransType) : Leads Recalls Recalls (closeExitOperation iStatus) where
  leads s hs := by
    refine closeExitOperation_records iStatus (Recalls.saveExit ?_)
    have hclosing := hs.call (c := .closeExitOperation iStatus s.tExit s.tParas.gfGSTRate)
      (fun _ _ => nofun)
    refine hclosing.of_view ?_
    rfl

instance : Releases Recalls Recalls := ⟨fun _ _ _ => inferInstance⟩

/-- While a deduction is being reported any vehicle may become the last transaction. -/
structure Reporting (s : Station) : Prop where
  recalls : Recalls s
  reported : ∀ gsLastPaidTrans, Recalled gsLastPaidTrans s.calls

/-- The records without the last transaction. -/
@[reducible] def reportingView (s : Station) : TStationType × String × Env × List Call :=
  (s.gtStation.iType, s.tEntry.sIUTKNo, s.env, s.calls)

instance {α : Type} (m : Op α) [hm : Frames reportingView m] : Leads Reporting Reporting m where
  leads s hs := by
    have hview := hm.frames s
    simp only [reportingView, Prod.mk.injEq] at hview
    obtain ⟨hiType, hentry, henv, hcalls⟩ := hview
    have hreported : ∀ gsLastPaidTrans, Recalled gsLastPaidTrans (after m s).calls :=
      hcalls ▸ hs.reported
    exact ⟨⟨hiType ▸ hs.recalls.iType, hentry ▸ hs.recalls.noEntry, henv ▸ hs.recalls.followsUp,
      hreported _⟩, hreported⟩

instance : Entails Reporting Recalls := ⟨fun _ hs => hs.recalls⟩

instance (iStatus : TransType) : Leads Reporting Recalls (closeExitOperation iStatus) :=
  ⟨fun s hs => Leads.leads s hs.recalls⟩

instance : Debits Recalls Recalls where
  debit sIUNO sCardNo sPaidAmt sBal iCardType sTopupAmt iDevicetype := by
    refine ⟨fun s hs => ?_⟩
    have hreporting : Reporting { s with calls := .debitOK iDevicetype sPaidAmt :: s.calls } :=
      ⟨hs.call (fun _ _ => nofun), fun _ => trivial⟩
    unfold debitOK
    rw [after_call_bind]
    dsimp only
    exact Leads.leads (P := Reporting) _ hreporting

/-! ## A vehicle that is read again -/

/-- An exit is stored, or a deduction is reported. -/
def Call.pays : Call → Bool
  | .insertexittrans _ ret => decide (Succeeds ret)
  | .debitOK _ _ => true
  | _ => false

theorem recalled_append {gsLastPaidTrans : String} {newer older : List Call} {row : TExitTrans}
    {ret : DBError} (hnone : ∀ c ∈ newer, c.pays = false) (hret : Succeeds ret)
    (hrecalled : Recalled gsLastPaidTrans (newer ++ .insertexittrans row ret :: older)) :
    gsLastPaidTrans = row.sIUNo := by
  induction newer with
  | nil => exact (if_pos hret).mp hrecalled
  | cons c newer ih =>
      have hpays := hnone c List.mem_cons_self
      have hrest : ∀ c ∈ newer, c.pays = false := fun c hc => hnone c (List.mem_cons_of_mem _ hc)
      cases c with
      | insertexittrans row' ret' =>
          have hfails : ¬Succeeds ret' := of_decide_eq_false hpays
          exact ih hrest ((if_neg hfails).mp hrecalled)
      | debitOK iDevicetype sPaidAmt => exact absurd hpays.symm Bool.false_ne_true
      | _ => exact ih hrest hrecalled

/-- A deduction is requested, or an exit is saved. -/
def Call.charges : Call → Bool
  | .deduct _ _ _ | .insertexittrans _ _ => true
  | _ => false

section Again

variable {charges : List Call}

instance : Leads (Filed Call.charges charges) (Filed Call.charges charges) clearme :=
  filed_clearme rfl

instance (iReason : ℤ) :
    Leads (Filed Call.charges charges) (Filed Call.charges charges) (call (.openBarrier iReason)) :=
  filed_call rfl

/-- The station can let the vehicle through: it has been paid for, it comes in time, no card is
being waited for, and `EnableCashcard` finds no other vehicle. -/
structure LetsThrough (s : Station) : Prop where
  inTime : seconds s.tProcess.lastTransTime (s.env.steadyClock s.asked) ≤
    s.tParas.giMaxTransInterval
  paid : s.tProcess.gbLastPaidStatus = true
  noWait : s.tExit.giDeductionStatus ≠ .WaitingCard
  noRefusal : cardRefused s.tExit.giDeductionStatus = false
  none : FindsNone false s

/-- The barrier opens for a vehicle that has paid. -/
theorem charged_openAgain {s : Station} (hnone : FindsNone false s) (depth : ℕ) :
    (after (do
      enableCashcardAt depth false
      openbarrier 2 : Op Unit) s).calls.filter Call.charges = s.calls.filter Call.charges := by
  let charges := s.calls.filter Call.charges
  have hentails : Entails (fun t => FindsNone false t ∧ Filed Call.charges charges t) (Filed Call.charges charges) :=
    ⟨fun _ ht => ht.2⟩
  have hmodify : Leads (fun t => FindsNone false t ∧ Filed Call.charges charges t) (Filed Call.charges charges)
      (modify fun s => { s with tProcess.sEnableReader := false } : Op Unit) := ⟨fun _ ht => ht.2⟩
  have henable : Leads (fun t => FindsNone false t ∧ Filed Call.charges charges t) (Filed Call.charges charges)
      (enableCashcardAt depth false) := enableCashcardAt_of_findsNone (fun _ ht => ht.1) depth
  exact Leads.after_bind (Q := Filed Call.charges charges) (henable.leads s ⟨hnone, rfl⟩)
    fun _ => inferInstance

/-- Reading the last transaction again requests nothing and saves nothing. -/
theorem charged_readAgain {s : Station} (hlets : LetsThrough s) {sCheckNo : String}
    (hlast : s.tProcess.gsLastPaidTrans = sCheckNo) (depth : ℕ) (iDevicetype : DeviceType)
    (sCardNo : String) (sCardType : ℤ) (sCardBal : ℚ) :
    (after (checkIUorCardStatus (enableCashcardAt depth) sCheckNo iDevicetype sCardNo sCardType
      sCardBal) s).calls.filter Call.charges = s.calls.filter Call.charges := by
  have hbalance : ¬balanceChanged s sCardNo sCardBal := fun h =>
    Bool.false_ne_true (h.2.2.2 ▸ hlets.paid)
  unfold checkIUorCardStatus checkPaid
  rw [after_get_bind, if_neg (by rw [hlets.noRefusal]; decide), after_get_bind]
  by_cases hpaid : s.tExit.gbPaid
  · rw [if_pos hpaid]
    exact charged_openAgain hlets.none depth
  · rw [if_neg hpaid, if_neg hbalance, if_neg (fun h => hlets.noWait h.1), if_neg hlets.noWait,
      firstRead, after_ask_bind, after_get_bind, if_pos ⟨hlast.symm, hlets.inTime⟩,
      if_pos hlets.paid]
    exact charged_openAgain (s := { s with asked := s.asked + 1 }) hlets.none depth

end Again

/-! ## A stored exit is not charged again -/

/-- An exit that is stored is remembered exactly if the last statement of `SaveExit` succeeds and
the exit is one that is reported.  In a run in which the statements after the inserts succeed, the
vehicle of the last exit that was stored is let through when it is read again, if the station can
tell that it has been paid for: no deduction is requested and no exit is saved. -/
theorem stored_exit_remembered (depth : ℕ) (events : List Event) {s : Station} (hs : NewExit s) :
    (∀ t : Station, t.tExit.sIUNo ≠ "" → Succeeds (exitAnswer t) →
      (Remembers t (after saveExit t) ↔ Noted t)) ∧
    (FollowsUp s.env → ∀ newer row ret older,
      (history depth events s).calls = newer ++ .insertexittrans row ret :: older →
      Succeeds ret → (∀ c ∈ newer, c.pays = false) → LetsThrough (history depth events s) →
      ∀ iDevicetype sCardNo sCardType sCardBal,
        (after (checkIUorCardStatus (enableCashcardAt depth) row.sIUNo iDevicetype sCardNo
            sCardType sCardBal) (history depth events s)).calls.filter Call.charges =
          (history depth events s).calls.filter Call.charges) := by
  refine ⟨fun t hIU _ => (saveExit_remembers hIU).2.1, ?_⟩
  intro hfollows newer row ret older hcalls hret hnewer hlets iDevicetype sCardNo sCardType sCardBal
  have hstart : Recalls s := ⟨hs.iType, hs.noEntry, hfollows, by rw [hs.noCalls]; trivial⟩
  have hrecalled := (history_records hstart depth events).recalled
  rw [hcalls] at hrecalled
  exact charged_readAgain hlets (recalled_append hnewer hret hrecalled) depth iDevicetype sCardNo
    sCardType sCardBal

/-- An exit that charges a season holder nothing. -/
def freeExit : Station :=
  { seasonExit with tParas := { giSeasonCharge := 0, giMaxTransInterval := 60 } }

/-- The row of the season holder. -/
def freeRow : TExitTrans := { seasonClosed.toTExitTrans with sFee := 0 }

/-- The season holder leaves, and a vehicle comes on loop A. -/
def leftExit : Station :=
  history 3 [.antennaIUCome "1234567890", .dio .LOOP_A_ON_EVENT] freeExit

theorem calls_leftExit :
    leftExit.calls =
      [.clearme, .handleEvent (.dio .LOOP_A_ON_EVENT), .openBarrier 0] ++
        .insertexittrans freeRow .iCentralSuccess ::
          [.closeExitOperation .SeasonParking { seasonClosed with sFee := 0 } 0,
            .handleEvent (.antennaIUCome "1234567890")] := by
  decide +kernel

theorem letsThrough_leftExit : LetsThrough leftExit := by
  refine ⟨by decide +kernel, by decide +kernel, by decide +kernel, by decide +kernel, Or.inr ?_⟩
  intro n
  have hnone : lookUpLPN leftExit = "" := by decide +kernel
  rw [lookedUp, hnone, if_neg (by decide)]
  decide

/-- The season holder is read again. -/
theorem stored_exit_remembered_free :
    (after (checkIUorCardStatus (enableCashcardAt 3) "1234567890" .Ant "" 0 0)
        leftExit).calls.filter Call.charges =
      leftExit.calls.filter Call.charges := by
  have hnew : NewExit freeExit := by constructor <;> rfl
  have hfollows : FollowsUp freeExit.env :=
    ⟨fun _ => Or.inl rfl, fun _ => Or.inl rfl, fun _ => Or.inl rfl⟩
  exact (stored_exit_remembered 3 _ hnew).2 hfollows _ freeRow .iCentralSuccess _ calls_leftExit
    (Or.inl rfl) (by decide) letsThrough_leftExit .Ant "" 0 0

/-- The movement of the season holder cannot be closed. -/
def unmovedExit : Station :=
  { freeExit with env := { freeExit.env with updatemovementtrans := fun _ => .iCentralFail } }

/-- The season holder leaves. -/
def unmovedLeft : Station := history 3 [.antennaIUCome "1234567890"] unmovedExit

/-- The exit is stored, but it is not remembered: the vehicle is saved a second time when it is
read again. -/
theorem not_stored_exit_remembered :
    unmovedLeft.calls =
        [.openBarrier 0, .insertexittrans freeRow .iCentralSuccess,
          .closeExitOperation .SeasonParking { seasonClosed with sFee := 0 } 0,
          .handleEvent (.antennaIUCome "1234567890")] ∧
      unmovedLeft.tProcess.gsLastIUNo = "" ∧ unmovedLeft.tProcess.gsLastPaidTrans = "" ∧
      unmovedLeft.dbErrNo = -1 ∧
      (history 3 [.dio .LOOP_A_ON_EVENT, .antennaIUCome "1234567890"]
          unmovedLeft).calls.filter Call.charges =
        [.insertexittrans freeRow .iCentralSuccess, .insertexittrans freeRow .iCentralSuccess] := by
  refine ⟨?_, ?_, ?_, ?_, ?_⟩ <;> decide +kernel

end LinuxPBS.Operation
